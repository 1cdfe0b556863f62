import LeagueStandings.Binary64.Decimal
import Mathlib.Algebra.Group.Nat.Defs

/-!
# Rounding depends on the number only

A decimal can be written in many ways, with more or fewer zeros at its end, and so can a quotient.
Rounding to binary64 sees the number and not the way it is written: a common factor does not change
what `Magnitude.ofRatio?` gives (`ofRatio?_mul_mul`), and a zero that moves from the coefficient
into the exponent does not change what `Binary64.ofDecimal` gives (`ofDecimal_mul_pow`).

A number that already is a magnitude is not rounded at all (`ofRatio?_eq_some`).
-/

namespace LeagueStandings

theorem roundDiv_mul_mul (num den : Nat) {factor : Nat} (h : 0 < factor) :
    roundDiv (num * factor) (den * factor) = roundDiv num den := by
  have hrest : ∀ {a b : Nat}, 2 * (a * factor) < b * factor ↔ 2 * a < b := by
    intro a b
    rw [← Nat.mul_assoc]
    exact Nat.mul_lt_mul_right h
  have hrest' : ∀ {a b : Nat}, b * factor < 2 * (a * factor) ↔ b < 2 * a := by
    intro a b
    rw [← Nat.mul_assoc]
    exact Nat.mul_lt_mul_right h
  unfold roundDiv
  dsimp only
  rw [Nat.mul_div_mul_right _ _ h, Nat.mul_mod_mul_right]
  simp only [hrest, hrest']

namespace Magnitude

theorem ofRatio?_mul_mul (num den : Nat) {factor : Nat} (h : 0 < factor) :
    ofRatio? (num * factor) (den * factor) = ofRatio? num den := by
  have hnum : num * factor * unitsPerOne = num * unitsPerOne * factor := Nat.mul_right_comm _ _ _
  have hden : ∀ exponent, (den * factor) <<< exponent = den <<< exponent * factor := by
    intro exponent
    rw [Nat.shiftLeft_eq, Nat.shiftLeft_eq, Nat.mul_right_comm]
  unfold ofRatio?
  simp only [hnum, hden, Nat.mul_div_mul_right _ _ h, roundDiv_mul_mul _ _ h]

theorem log2_mul_two_pow {n digits : Nat} (hlow : 2 ^ digits ≤ n) (hhigh : n < 2 ^ (digits + 1))
    (zeros : Nat) : (n * 2 ^ zeros).log2 = digits + zeros := by
  have hpos : 0 < 2 ^ zeros := Nat.two_pow_pos _
  have hn : 0 < n := Nat.lt_of_lt_of_le (Nat.two_pow_pos digits) hlow
  rw [Nat.log2_eq_iff (Nat.ne_of_gt (Nat.mul_pos hn hpos))]
  constructor
  · rw [Nat.pow_add]
    exact Nat.mul_le_mul_right _ hlow
  · rw [Nat.add_right_comm, Nat.pow_add]
    exact Nat.mul_lt_mul_of_pos_right hhigh hpos

/-- The exponent of a magnitude can be told from its units. -/
theorem log2_units_sub (x : Magnitude) : x.units.log2 - 52 = x.exponent := by
  rw [units, Nat.shiftLeft_eq]
  -- Either nothing is shifted, or the significand has all its 53 digits.
  rcases x.canonical with he | hs
  · have hlt : x.significand < 2 ^ 53 := x.significand_lt
    rw [he, Nat.pow_zero, Nat.mul_one]
    by_cases hz : x.significand = 0
    · rw [hz]
      rfl
    · have hlog : x.significand.log2 < 53 := (Nat.log2_lt hz).mpr hlt
      omega
  · have hlog : (x.significand * 2 ^ x.exponent).log2 = 52 + x.exponent :=
      log2_mul_two_pow hs x.significand_lt x.exponent
    omega

theorem ofRatio?_eq_some (x : Magnitude) {num den : Nat} (hden : 0 < den)
    (h : num * unitsPerOne = x.units * den) : ofRatio? num den = some x := by
  have hexponent : (num * unitsPerOne / den).log2 - 52 = x.exponent := by
    rw [h, Nat.mul_div_cancel _ hden, log2_units_sub]
  have hsignificand : roundDiv (num * unitsPerOne) (den <<< x.exponent) = x.significand := by
    have hpos : 0 < den * 2 ^ x.exponent := Nat.mul_pos hden (Nat.two_pow_pos _)
    rw [h, units, Nat.shiftLeft_eq, Nat.shiftLeft_eq, Nat.mul_assoc, Nat.mul_comm _ den,
      roundDiv_mul _ hpos]
  unfold ofRatio?
  simp only [hexponent, hsignificand]
  exact dif_pos ⟨x.significand_lt, x.exponent_le, x.canonical⟩

theorem unitsPerOne_pos : 0 < unitsPerOne := by decide

theorem unitsPerOne_eq : unitsPerOne = 2 ^ 1074 := by
  unfold unitsPerOne
  generalize 1074 = one
  exact Nat.one_shiftLeft one

end Magnitude

namespace Binary64

theorem ofRatio_mul_mul (negative : Bool) (num den : Nat) {factor : Nat} (h : 0 < factor) :
    ofRatio negative (num * factor) (den * factor) = ofRatio negative num den := by
  rw [ofRatio, ofRatio, Magnitude.ofRatio?_mul_mul num den h]

/-! ## Decimals -/

theorem length_toDigits_mul_pow {n : Nat} (h : 0 < n) (k : Nat) :
    (Nat.toDigits 10 (n * 10 ^ k)).length = (Nat.toDigits 10 n).length + k := by
  induction k with
  | zero => rw [Nat.pow_zero, Nat.mul_one, Nat.add_zero]
  | succ k ih =>
    have hpos : 0 < n * 10 ^ k := Nat.mul_pos h (Nat.pow_pos (by decide))
    have hdigits := Nat.toDigits_append_toDigits (b := 10) (n := n * 10 ^ k) (d := 0) (by decide)
      hpos (by decide)
    rw [Nat.pow_succ, ← Nat.mul_assoc, Nat.mul_comm _ 10, ← Nat.add_zero (10 * _), ← hdigits,
      List.length_append, ih, Nat.toDigits_zero]
    rfl

/-- A decimal within the range of scales is rounded as a quotient, in which one of the powers of ten
is one. -/
theorem ofDecimal_eq_ofRatio {d : Decimal} (hne : d.coefficient ≠ 0) (hle : d.scale ≤ 310)
    (hge : -330 ≤ d.scale) :
    ofDecimal d =
      ofRatio d.negative (d.coefficient * 10 ^ d.exponent.toNat) (10 ^ (-d.exponent).toNat) := by
  rw [ofDecimal, if_neg hne, if_neg (Int.not_lt.mpr hle), if_neg (Int.not_lt.mpr hge)]
  split
  · next h => rw [show (-d.exponent).toNat = 0 by omega, Nat.pow_zero]; rfl
  · next h => rw [show d.exponent.toNat = 0 by omega, Nat.pow_zero, Nat.mul_one]; rfl

theorem negative_of_ofDecimal {d : Decimal} {negative : Bool} {x : Magnitude}
    (h : ofDecimal d = .finite negative x) : d.negative = negative := by
  have hratio : ∀ num den, ofRatio d.negative num den = .finite negative x →
      d.negative = negative := by
    intro num den hfinite
    rw [ofRatio] at hfinite
    cases hmagnitude : Magnitude.ofRatio? num den with
    | none =>
      rw [hmagnitude] at hfinite
      cases hfinite
    | some y =>
      rw [hmagnitude] at hfinite
      cases hfinite
      rfl
  unfold ofDecimal at h
  split at h
  · cases h
    rfl
  split at h
  · cases h
  split at h
  · cases h
    rfl
  split at h
  · exact hratio _ _ h
  · exact hratio _ _ h

theorem ofDecimal_mul_pow (negative : Bool) (coefficient k : Nat) (exponent : Int) :
    ofDecimal ⟨negative, coefficient * 10 ^ k, exponent - k⟩ =
      ofDecimal ⟨negative, coefficient, exponent⟩ := by
  rcases Nat.eq_zero_or_pos coefficient with rfl | hpos
  · rw [Nat.zero_mul, ofDecimal, ofDecimal, if_pos rfl, if_pos rfl]
  have hpow : ∀ n, 0 < 10 ^ n := fun n ↦ Nat.pow_pos (by decide)
  have hne : coefficient * 10 ^ k ≠ 0 := Nat.ne_of_gt (Nat.mul_pos hpos (hpow k))
  have hscale : Decimal.scale ⟨negative, coefficient * 10 ^ k, exponent - k⟩ =
      Decimal.scale ⟨negative, coefficient, exponent⟩ := by
    rw [Decimal.scale, Decimal.scale, Decimal.digits, Decimal.digits,
      length_toDigits_mul_pow hpos]
    push_cast
    omega
  rcases Int.lt_or_le 310 (Decimal.scale ⟨negative, coefficient, exponent⟩) with hgt | hle
  · rw [ofDecimal, ofDecimal, hscale, if_neg hne, if_neg (Nat.ne_of_gt hpos), if_pos hgt,
      if_pos hgt]
  rcases Int.lt_or_le (Decimal.scale ⟨negative, coefficient, exponent⟩) (-330) with hlt | hge
  · rw [ofDecimal, ofDecimal, hscale, if_neg hne, if_neg (Nat.ne_of_gt hpos),
      if_neg (Int.not_lt.mpr hle), if_neg (Int.not_lt.mpr hle), if_pos hlt, if_pos hlt]
  rw [ofDecimal_eq_ofRatio hne (hscale ▸ hle) (hscale ▸ hge),
    ofDecimal_eq_ofRatio (Nat.ne_of_gt hpos) hle hge]
  -- Both quotients have grown by one power of ten, whatever the signs of the exponents.
  obtain ⟨m, hnum, hden⟩ : ∃ m, k + (exponent - k).toNat = exponent.toNat + m ∧
      (-(exponent - k)).toNat = (-exponent).toNat + m :=
    ⟨k + (exponent - k).toNat - exponent.toNat, by omega, by omega⟩
  dsimp only
  rw [Nat.mul_assoc, ← Nat.pow_add, hnum, hden, Nat.pow_add, Nat.pow_add, ← Nat.mul_assoc,
    ofRatio_mul_mul _ _ _ (hpow m)]

end Binary64

end LeagueStandings
