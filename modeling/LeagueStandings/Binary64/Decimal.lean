import LeagueStandings.Binary64.Basic

/-!
# Decimal numbers and numerals

A `Numeral` is the spelling of a number: an optional sign, digits, an optional fraction and an
optional exponent. Three formats share it (the cells of a table, JSON and TOML), and each adds its
own restriction to what `Numeral.ofChars?` accepts. A `Decimal` is the number that a numeral
denotes, and `Binary64.ofDecimal` rounds it.
-/

namespace LeagueStandings

/-- The number `± coefficient * 10 ^ exponent`. -/
structure Decimal where
  negative : Bool
  coefficient : Nat
  exponent : Int
deriving DecidableEq, Repr

namespace Decimal

/-- The decimal digits of the coefficient. -/
def digits (d : Decimal) : List Char := Nat.toDigits 10 d.coefficient

/-- The exponent of the leading digit plus one: a nonzero number lies below `10 ^ magnitude` and is
at least a tenth of it. -/
def scale (d : Decimal) : Int := d.digits.length + d.exponent

end Decimal

/-- The binary64 number nearest to a decimal. Beyond `10 ^ 310` all is infinite and below
`10 ^ -330` all is zero, which keeps the powers of ten small. -/
def Binary64.ofDecimal (d : Decimal) : Binary64 :=
  if d.coefficient = 0 then .finite d.negative .zero
  else if 310 < d.scale then .infinite d.negative
  else if d.scale < -330 then .finite d.negative .zero
  else if 0 ≤ d.exponent then
    Binary64.ofRatio d.negative (d.coefficient * Nat.pow 10 d.exponent.toNat) 1
  else Binary64.ofRatio d.negative d.coefficient (Nat.pow 10 (-d.exponent).toNat)

/-- The spelling of a number. -/
structure Numeral where
  /-- `+`, `-` or nothing. -/
  sign : Option Char
  /-- The digits before the point. -/
  whole : List Char
  /-- The digits after the point, if there is a point. -/
  fraction : Option (List Char)
  /-- The sign and the digits of the exponent, if there is one. -/
  exponent : Option (Option Char × List Char)
deriving DecidableEq, Repr

namespace Numeral

/-- Splits a leading `+` or `-` off. -/
def takeSign : List Char → Option Char × List Char
  | '+' :: rest => (some '+', rest)
  | '-' :: rest => (some '-', rest)
  | rest => (none, rest)

/-- Reads the end of a numeral: nothing, or `e` or `E` with a signed run of digits. -/
def exponentOfChars? : List Char → Option (Option (Option Char × List Char))
  | [] => some none
  | mark :: rest =>
    let (sign, digits) := takeSign rest
    if (mark = 'e' ∨ mark = 'E') ∧ digits ≠ [] ∧ digits.all Char.isDigit then
      some (some (sign, digits))
    else none

/-- Reads a numeral that takes up all the characters. Either run of digits may still be empty. -/
def ofChars? (cs : List Char) : Option Numeral :=
  let (sign, rest) := takeSign cs
  let whole := rest.takeWhile Char.isDigit
  match rest.dropWhile Char.isDigit with
  | '.' :: rest =>
    (exponentOfChars? (rest.dropWhile Char.isDigit)).map
      (⟨sign, whole, some (rest.takeWhile Char.isDigit), ·⟩)
  | rest => (exponentOfChars? rest).map (⟨sign, whole, none, ·⟩)

/-- The sign is a minus. -/
def isNegative (n : Numeral) : Bool := n.sign == some '-'

/-- There is neither a point nor an exponent. -/
def isPlain (n : Numeral) : Bool := n.fraction.isNone && n.exponent.isNone

/-- The digits before the point as a natural number. -/
def wholeValue (n : Numeral) : Nat := Nat.ofDigitChars 10 n.whole 0

/-- The integer that the sign and the digits before the point spell. -/
def integer (n : Numeral) : Int := if n.isNegative then -(n.wholeValue : Int) else n.wholeValue

/-- The value of the exponent, zero when there is none. -/
def exponentValue (n : Numeral) : Int :=
  match n.exponent with
  | none => 0
  | some (sign, digits) =>
    let value : Int := Nat.ofDigitChars 10 digits 0
    if sign = some '-' then -value else value

/-- The number that the numeral denotes. -/
def decimal (n : Numeral) : Decimal :=
  let fraction := n.fraction.getD []
  { negative := n.isNegative
    coefficient := Nat.ofDigitChars 10 (n.whole ++ fraction) 0
    exponent := n.exponentValue - fraction.length }

/-- The binary64 number nearest to the numeral. -/
def binary64 (n : Numeral) : Binary64 := Binary64.ofDecimal n.decimal

end Numeral

end LeagueStandings
