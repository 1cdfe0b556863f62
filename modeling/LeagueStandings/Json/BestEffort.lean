import LeagueStandings.Binary64.Decimal

/-!
# Numbers read with best effort

A JSON numeral is not read as the binary64 number nearest to it. Its digits are taken into an
integer of 64 bits while there is room, this integer is rounded, and the result is multiplied or
divided by a power of ten, which is itself rounded. Each of these steps may be off by half a unit,
so that the number may come out beside the nearest one.

Only JSON is read in this way. The cells of a table and the settings of a configuration are rounded
once, by `Numeral.binary64`.
-/

namespace LeagueStandings

namespace Magnitude

/-- The product, rounded. -/
def mul? (x y : Magnitude) : Option Magnitude :=
  ofRatio? (x.units * y.units) (unitsPerOne * unitsPerOne)

/-- The quotient, rounded. -/
def div? (x y : Magnitude) : Option Magnitude := ofRatio? x.units y.units

/-- The magnitude nearest to `10 ^ k`, for those powers of ten that have one. -/
def powerOfTen? (k : Nat) : Option Magnitude :=
  if k ≤ 308 then ofRatio? (Nat.pow 10 k) 1 else none

/-- Divides by `10 ^ 308` so many times, but stops at zero. -/
def divideOften? : (times : Nat) → Magnitude → Option Magnitude
  | 0, x => some x
  | times + 1, x =>
    if x.significand = 0 then some x
    else (powerOfTen? 308).bind fun power ↦ (x.div? power).bind (divideOften? times)

/-- The magnitude times `10 ^ exponent`. A division by more than `10 ^ 308` is done in steps; a
multiplication by more is out of range, except that zero stays zero. -/
def scale? (x : Magnitude) : (exponent : Int) → Option Magnitude
  | .ofNat k => if x.significand = 0 then some x else (powerOfTen? k).bind x.mul?
  | .negSucc k =>
    (divideOften? (k / 308) x).bind fun x ↦ (powerOfTen? (k % 308 + 1)).bind x.div?

end Magnitude

namespace Numeral

/-- Appends digits to an integer as long as it has no more than 64 bits. The first digit that does
not fit is left over, with all that follow it. -/
def takeDigits (value : Nat) : List Char → Nat × List Char
  | [] => (value, [])
  | c :: rest =>
    let next := 10 * value + (c.toNat - '0'.toNat)
    if next < 0x10000000000000000 then takeDigits next rest else (value, c :: rest)

/-- The integer and the power of ten that the numeral is read as. A digit that is left over, on
either side of the point, counts as one power of ten. -/
def parts (n : Numeral) : Nat × Int :=
  let (value, rest) := takeDigits 0 n.whole
  let (value, rest') := takeDigits value (n.fraction.getD [])
  (value, n.decimal.exponent + (rest.length + rest'.length : Nat))

/-- The magnitude that the numeral is read as, unless it is too large. -/
def bestEffort? (n : Numeral) : Option Magnitude :=
  let (value, exponent) := n.parts
  (Magnitude.ofRatio? value 1).bind (·.scale? exponent)

end Numeral

end LeagueStandings
