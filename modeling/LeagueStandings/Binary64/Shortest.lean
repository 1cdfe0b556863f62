import LeagueStandings.Binary64.Decimal

/-!
# The shortest decimal that reads back

A finite number is printed with the fewest decimal digits from which `Binary64.ofDecimal` recovers
it. With `n` digits the candidates are the two neighbours of the number on the grid of `n`-digit
decimals; the first `n` with a candidate that reads back wins, and of two candidates the nearer,
a tie going to the even coefficient.

Seventeen digits always suffice. The exact expansion stands behind the search all the same, so that
reading back needs no such bound.
-/

namespace LeagueStandings

namespace Decimal

/-- Takes up to `count` trailing zeros off the coefficient, into the exponent. -/
private def dropZeros : Nat → Decimal → Decimal
  | 0, d => d
  | count + 1, d =>
    if d.coefficient ≠ 0 ∧ d.coefficient % 10 = 0 then
      dropZeros count { d with coefficient := d.coefficient / 10, exponent := d.exponent + 1 }
    else d

/-- The same number with no trailing zero in its coefficient. -/
def normalize (d : Decimal) : Decimal := dropZeros d.digits.length d

end Decimal

namespace Magnitude

/-- The magnitude written out in full: a unit is `5 ^ 1074 / 10 ^ 1074`. -/
def expansion (negative : Bool) (x : Magnitude) : Decimal :=
  { negative, coefficient := x.units * Nat.pow 5 1074, exponent := -1074 }

/-- The exponent of the leading decimal digit. -/
def leadingExponent (x : Magnitude) : Int := (x.expansion false).scale - 1

/-- The neighbours of `x` on the grid of multiples of `10 ^ exponent`, the nearer first. The
quotient is `x / 10 ^ exponent`, written over `10 ^ 1074`. -/
def neighbours (negative : Bool) (x : Magnitude) (exponent : Int) : List Decimal :=
  let num := x.units * Nat.pow 5 1074 * Nat.pow 10 (-exponent).toNat
  let den := Nat.pow 10 (1074 + exponent.toNat)
  let below : Decimal := ⟨negative, num / den, exponent⟩
  let above : Decimal := ⟨negative, num / den + 1, exponent⟩
  let nearest := roundDiv num den
  if nearest = num / den then [below, above] else [above, below]

/-- The first neighbour that reads back among those with `count` digits, where `leading` is the
exponent of the leading digit. -/
def candidate? (negative : Bool) (x : Magnitude) (leading : Int) (count : Nat) : Option Decimal :=
  ((x.neighbours negative (leading + 1 - count)).map Decimal.normalize).find?
    fun d ↦ Binary64.ofDecimal d = .finite negative x

/-- The shortest decimal that reads back as the number; zero has the coefficient zero. -/
def shortest (negative : Bool) (x : Magnitude) : Decimal :=
  if x.significand = 0 then ⟨negative, 0, 0⟩
  else
    let leading := x.leadingExponent
    ((List.range' 1 17).findSome? (x.candidate? negative leading)).getD (x.expansion negative)

end Magnitude

namespace Decimal

/-- `count` zeros. -/
def zeros (count : Int) : List Char := List.replicate count.toNat '0'

/-- The sign as it is printed. -/
def signChars (d : Decimal) : List Char := if d.negative then ['-'] else []

/-- The number in positional notation, with a point only when there is a fraction. -/
def positional (d : Decimal) : List Char :=
  let digits := d.digits
  if 0 ≤ d.exponent then d.signChars ++ digits ++ zeros d.exponent
  else if 0 < d.scale then
    let split := d.scale.toNat
    d.signChars ++ digits.take split ++ '.' :: digits.drop split
  else d.signChars ++ '0' :: '.' :: zeros (-d.scale) ++ digits

/-- The number with one digit before the point and an exponent that carries its sign. No point
follows a lone digit. -/
def scientific (d : Decimal) : List Char :=
  let digits := d.digits
  let power := d.scale - 1
  let fraction := digits.drop 1
  d.signChars ++ digits.take 1 ++ (if fraction = [] then [] else '.' :: fraction) ++
    'e' :: (if power < 0 then '-' else '+') :: Nat.toDigits 10 power.natAbs

end Decimal

namespace Binary64

/-- The text of a number in a message: shortest digits, never an exponent, a point only before a
fraction. -/
def positionalText : Binary64 → String
  | nan => "NaN"
  | infinite negative => if negative then "-inf" else "inf"
  | finite negative x => String.ofList (x.shortest negative).positional

end Binary64

end LeagueStandings
