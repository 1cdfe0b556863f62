/-!
# Binary floating-point numbers of 64 bits

Points per game and win percentages are IEEE binary64 numbers. They are kept here as what they
are, a sign and a significand times a power of two, so that every comparison and every rounding is
a statement about natural numbers.

## Representation

The unit is `2 ^ -1074`, the least positive number of the format. A magnitude is
`significand * 2 ^ exponent` units, and its proof fields say that this is the canonical form: the
significand has at most 53 binary digits, and fewer only with exponent zero. So two magnitudes are
equal exactly when they have the same value. There is one NaN, since no reader here can tell two of
them apart.

## Rounding

`Magnitude.ofRatio?` rounds a quotient of natural numbers to the nearest magnitude, a tie going to
the even significand, and answers `none` beyond the largest one. Decimal numerals and integers both
enter the format through it. `roundDiv` underneath is off by at most half a unit (`le_roundDiv`,
`roundDiv_le`) and exact where it can be (`roundDiv_mul`).
-/

namespace LeagueStandings

/-- The quotient rounded to the nearest natural number, a tie to the even one. -/
def roundDiv (num den : Nat) : Nat :=
  let quotient := num / den
  let rest := num % den
  if 2 * rest < den then quotient
  else if den < 2 * rest then quotient + 1
  else quotient + quotient % 2

/-- The quotient lies at most half a unit above the number that it is rounded to. -/
theorem le_roundDiv (num : Nat) {den : Nat} (h : 0 < den) :
    2 * num ≤ (2 * roundDiv num den + 1) * den := by
  have hq := Nat.div_add_mod num den
  have hr := Nat.mod_lt num h
  rw [Nat.add_mul, Nat.one_mul, Nat.mul_assoc, Nat.mul_comm _ den]
  unfold roundDiv
  dsimp only
  split
  · omega
  · split
    · rw [Nat.mul_add]; omega
    · rw [Nat.mul_add]; omega

/-- The quotient lies at most half a unit below the number that it is rounded to. -/
theorem roundDiv_le (num : Nat) {den : Nat} (h : 0 < den) :
    2 * roundDiv num den * den ≤ 2 * num + den := by
  have hq := Nat.div_add_mod num den
  have hr := Nat.mod_lt num h
  rw [Nat.mul_assoc, Nat.mul_comm _ den]
  unfold roundDiv
  dsimp only
  split
  · omega
  · split
    · rw [Nat.mul_add]; omega
    · rcases Nat.mod_two_eq_zero_or_one (num / den) with h2 | h2 <;> rw [h2, Nat.mul_add] <;> omega

/-- A quotient without a rest is not changed. -/
@[simp] theorem roundDiv_mul (n : Nat) {den : Nat} (h : 0 < den) : roundDiv (n * den) den = n := by
  simp [roundDiv, h]

/-- A finite number without its sign: `significand * 2 ^ exponent` units of `2 ^ -1074`. -/
structure Magnitude where
  /-- At most 53 binary digits. -/
  significand : Nat
  /-- How far the significand is shifted to the left. -/
  exponent : Nat
  significand_lt : significand < 0x20000000000000 := by decide
  exponent_le : exponent ≤ 2045 := by decide
  canonical : exponent = 0 ∨ 0x10000000000000 ≤ significand := by decide
deriving DecidableEq, Repr

namespace Magnitude

/-- The magnitude counted in units of `2 ^ -1074`. -/
def units (x : Magnitude) : Nat := x.significand <<< x.exponent

/-- The number one counted in units. -/
def unitsPerOne : Nat := 1 <<< 1074

/-- The magnitude of zero. -/
def zero : Magnitude := { significand := 0, exponent := 0 }

/-- The magnitude nearest to `num / den`, ties to the even significand; `none` when it would lie
beyond the largest one. The exponent is the one at which the quotient has 53 binary digits; when
rounding carries into a digit more, the next exponent takes the carry. -/
def ofRatio? (num den : Nat) : Option Magnitude :=
  let units := num * unitsPerOne
  let exponent := (units / den).log2 - 52
  let significand := roundDiv units (den <<< exponent)
  if h : significand < 0x20000000000000 ∧ exponent ≤ 2045 ∧
      (exponent = 0 ∨ 0x10000000000000 ≤ significand) then
    some ⟨significand, exponent, h.1, h.2.1, h.2.2⟩
  else if h : exponent + 1 ≤ 2045 then
    some ⟨0x10000000000000, exponent + 1, by decide, h, .inr (by decide)⟩
  else none

end Magnitude

/-- A binary64 number. -/
inductive Binary64
  /-- No number at all. -/
  | nan
  /-- Infinity of either sign. -/
  | infinite (negative : Bool)
  /-- A finite number; zero has both signs. -/
  | finite (negative : Bool) (magnitude : Magnitude)
deriving DecidableEq, Repr

namespace Binary64

/-- The number `num / den` with the given sign, rounded to the nearest binary64 number. -/
def ofRatio (negative : Bool) (num den : Nat) : Binary64 :=
  (Magnitude.ofRatio? num den).elim (.infinite negative) (.finite negative)

/-- The integer, rounded to the nearest binary64 number. -/
def ofInt (n : Int) : Binary64 := ofRatio (n < 0) n.natAbs 1

/-- Neither infinite nor NaN. -/
def isFinite : Binary64 → Bool
  | finite _ _ => true
  | _ => false

/-- The signed count of units of `2 ^ -1074` of a finite number. -/
def signedUnits (negative : Bool) (x : Magnitude) : Int :=
  if negative then -(x.units : Int) else x.units

/-- The order of IEEE 754: NaN is not comparable, not even with itself, and the two zeros are
equal. -/
def le : Binary64 → Binary64 → Bool
  | nan, _ => false
  | _, nan => false
  | infinite true, _ => true
  | _, infinite false => true
  | infinite false, _ => false
  | _, infinite true => false
  | finite s x, finite t y => decide (signedUnits s x ≤ signedUnits t y)

/-- The strict order of IEEE 754, in which NaN takes no part. -/
def lt (x y : Binary64) : Bool := x.le y && !y.le x

/-- The integer that a finite number is, unless it has a fraction. -/
def toInt? : Binary64 → Option Int
  | finite negative x =>
    if x.units % Magnitude.unitsPerOne = 0 then
      some (signedUnits negative x / Magnitude.unitsPerOne)
    else none
  | _ => none

end Binary64

end LeagueStandings
