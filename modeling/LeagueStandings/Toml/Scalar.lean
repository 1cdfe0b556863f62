import LeagueStandings.Date
import LeagueStandings.Integer64
import LeagueStandings.Toml.Document

/-!
# The words of TOML

Numbers, booleans, dates and times are words without blanks. Underscores may stand between two
digits of a number. An integer has 64 bits with sign; a decimal that is too large for a binary64
number is refused, though a negative one becomes infinite.
-/

namespace LeagueStandings.TomlWord

/-- The characters without underscores, each of which must stand between two digits. -/
def dropUnderscores? (isDigit : Char → Bool) (before : Option Char) :
    List Char → Option (List Char)
  | [] => some []
  | '_' :: next :: rest =>
    if before.any isDigit && isDigit next then
      (dropUnderscores? isDigit (some next) rest).map (next :: ·)
    else none
  | '_' :: [] => none
  | c :: rest => (dropUnderscores? isDigit (some c) rest).map (c :: ·)

/-- An integer without a sign in the given base. -/
def based? (base : Nat) (cs : List Char) : Option Int :=
  if cs = [] then none
  else (cs.foldlM (fun value c ↦ (digitValue? c).map (value * base + ·)) 0).map Int.ofNat
where
  /-- The value of a digit in the base. -/
  digitValue? (c : Char) : Option Nat :=
    let value :=
      if c.isDigit then c.toNat - '0'.toNat
      else if 'a' ≤ c ∧ c ≤ 'f' then c.toNat - 'a'.toNat + 10
      else if 'A' ≤ c ∧ c ≤ 'F' then c.toNat - 'A'.toNat + 10
      else base
    if value < base then some value else none

/-- A hexadecimal digit. -/
def isHexDigit (c : Char) : Bool :=
  c.isDigit || ('a' ≤ c && c ≤ 'f') || ('A' ≤ c && c ≤ 'F')

/-- The integer, if 64 bits hold it. -/
def int64? (n : Int) : Option Toml :=
  (Integer64.ofInt? n).map .integer

/-- A decimal number: no superfluous zero in front and digits on both sides of a point. -/
def decimal? (cs : List Char) : Option Toml := do
  let numeral ← Numeral.ofChars? (← dropUnderscores? Char.isDigit none cs)
  if numeral.whole = [] ∨ (numeral.whole.head? = some '0' ∧ numeral.whole ≠ ['0']) ∨
      numeral.fraction = some [] then none
  if numeral.isPlain then int64? numeral.integer
  else
    let value := numeral.binary64
    if value = .infinite false then none else some (.float value)

/-- An integer in one of the bases that a mark names. -/
def marked? (base : Nat) (cs : List Char) : Option Toml := do
  int64? (← based? base (← dropUnderscores? isHexDigit none cs))

/-- Infinity or NaN with an optional sign. -/
def special? (cs : List Char) : Option Toml :=
  let (sign, word) := Numeral.takeSign cs
  if word = "inf".toList then some (.float (.infinite (sign == some '-')))
  else if word = "nan".toList then some (.float .nan)
  else none

/-! ## Dates and times -/

/-- A number of two digits up to a limit. -/
def isTwoDigits (limit : Nat) (a b : Char) : Bool :=
  a.isDigit && b.isDigit && decide (Nat.ofDigitChars 10 [a, b] 0 ≤ limit)

/-- A date of the calendar. -/
def isDate : List Char → Bool
  | [a, b, c, d, '-', e, f, '-', g, h] =>
    [a, b, c, d, e, f, g, h].all Char.isDigit &&
      (Date.ofNumbers? (Nat.ofDigitChars 10 [a, b, c, d] 0) (Nat.ofDigitChars 10 [e, f] 0)
        (Nat.ofDigitChars 10 [g, h] 0)).isSome
  | _ => false

/-- A distance from universal time, or nothing. -/
def isOffset : List Char → Bool
  | [] | ['Z'] | ['z'] => true
  | [sign, a, b, ':', c, d] =>
    (sign == '+' || sign == '-') && isTwoDigits 23 a b && isTwoDigits 59 c d
  | _ => false

/-- A time of the day, followed by what `isEnd` accepts. A second may be a leap second. -/
def isTime (isEnd : List Char → Bool) : List Char → Bool
  | a :: b :: ':' :: c :: d :: ':' :: e :: f :: rest =>
    isTwoDigits 23 a b && isTwoDigits 59 c d && isTwoDigits 60 e f &&
      match rest with
      | '.' :: g :: rest => g.isDigit && isEnd (rest.dropWhile Char.isDigit)
      | rest => isEnd rest
  | _ => false

/-- A date, a time, or a date and a time with `T` between them. -/
def isDateTime (cs : List Char) : Bool :=
  isDate cs || isTime List.isEmpty cs ||
    match cs.drop 10 with
    | mark :: rest => isDate (cs.take 10) && (mark == 'T' || mark == 't') && isTime isOffset rest
    | [] => false

/-- The value of a word. -/
def value? (cs : List Char) : Option Toml :=
  if cs = "true".toList then some (.boolean true)
  else if cs = "false".toList then some (.boolean false)
  else if isDateTime cs then some .dateTime
  else match cs with
    | '0' :: 'x' :: digits => marked? 16 digits
    | '0' :: 'o' :: digits => marked? 8 digits
    | '0' :: 'b' :: digits => marked? 2 digits
    | cs => (special? cs).or (decimal? cs)

end LeagueStandings.TomlWord
