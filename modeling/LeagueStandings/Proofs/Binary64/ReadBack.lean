import LeagueStandings.Binary64.Shortest
import LeagueStandings.Proofs.Binary64.Bounds

/-!
# Reading printed numbers back

The shortest decimal of a finite number reads back as that number, sign included
(`ofDecimal_shortest`). The search only ever returns decimals that do; what is left is the exact
expansion, which stands in if no short decimal is found, and the two zeros.

The expansion lies within the range of scales that are not cut off, since the largest magnitude is
below `10 ^ 310` and the least is above `10 ^ -331`.
-/

namespace LeagueStandings

namespace Magnitude

theorem units_pos {x : Magnitude} (h : x.significand ≠ 0) : 0 < x.units := by
  rw [units, Nat.shiftLeft_eq]
  exact Nat.mul_pos (Nat.pos_of_ne_zero h) (Nat.two_pow_pos _)

theorem eq_zero_of_significand {x : Magnitude} (h : x.significand = 0) : x = zero := by
  have hexponent : x.exponent = 0 := x.canonical.resolve_right (by omega)
  cases x
  simp only at h hexponent
  subst h hexponent
  rfl

/-- What is needed of the power of five in an expansion: how many digits it has, how many it has with
the largest magnitude, and that it makes a power of ten of the units of one. -/
private theorem pow_five_bounds :
    Nat.pow 10 743 ≤ Nat.pow 5 1074 ∧
      0x1FFFFFFFFFFFFF * coarsestStep * Nat.pow 5 1074 < Nat.pow 10 1384 ∧
      Nat.pow 5 1074 * unitsPerOne = Nat.pow 10 1074 := by
  decide +kernel

variable (negative : Bool) (x : Magnitude)

theorem coefficient_expansion : (x.expansion negative).coefficient = x.units * Nat.pow 5 1074 := rfl

theorem coefficient_expansion_ne_zero (h : x.significand ≠ 0) :
    (x.expansion negative).coefficient ≠ 0 := by
  have hfive : 0 < Nat.pow 5 1074 := by decide +kernel
  rw [coefficient_expansion]
  exact Nat.ne_of_gt (Nat.mul_pos (units_pos h) hfive)

private theorem length_digits_le_iff {d : Decimal} {k : Nat} (hk : 0 < k) :
    d.digits.length ≤ k ↔ d.coefficient < Nat.pow 10 k :=
  Nat.length_toDigits_le_iff (by decide) hk

theorem scale_expansion (h : x.significand ≠ 0) :
    (x.expansion negative).scale ≤ 310 ∧ -330 ≤ (x.expansion negative).scale := by
  obtain ⟨hlow, hhigh, -⟩ := pow_five_bounds
  have hlow' : Nat.pow 10 743 ≤ (x.expansion negative).coefficient :=
    Nat.le_trans hlow (Nat.le_mul_of_pos_left _ (units_pos h))
  have hhigh' : (x.expansion negative).coefficient < Nat.pow 10 1384 :=
    Nat.lt_of_le_of_lt (Nat.mul_le_mul_right _ x.units_le) hhigh
  have hupper := (length_digits_le_iff (by decide)).mpr hhigh'
  have hlower := mt (length_digits_le_iff (by decide)).mp (Nat.not_lt.mpr hlow')
  have hscale : (x.expansion negative).scale = (x.expansion negative).digits.length + -1074 := rfl
  omega

end Magnitude

namespace Binary64

variable (negative : Bool) (x : Magnitude)

theorem ofDecimal_expansion (h : x.significand ≠ 0) :
    ofDecimal (x.expansion negative) = .finite negative x := by
  obtain ⟨hle, hge⟩ := x.scale_expansion negative h
  have hten := Magnitude.pow_five_bounds.2.2
  have hcoefficient := x.coefficient_expansion negative
  have hexponent : (x.expansion negative).exponent = -((1074 : Nat) : Int) := rfl
  rw [ofDecimal_eq_ofRatio (x.coefficient_expansion_ne_zero negative h) hle hge]
  -- The powers are too large to be looked into.
  generalize 1074 = digits at hten hcoefficient hexponent
  have hunits : x.units * Nat.pow 5 digits * Magnitude.unitsPerOne = x.units * 10 ^ digits := by
    rw [Nat.mul_assoc, hten, Nat.pow_eq]
  rw [hcoefficient, hexponent, Int.neg_neg, Int.toNat_natCast, Int.toNat_neg_natCast, Nat.pow_zero,
    Nat.mul_one, ofRatio, Magnitude.ofRatio?_eq_some x (Nat.pow_pos (by decide)) hunits]
  rfl

/-- **Reading back.** The shortest decimal of a number is rounded to that number. -/
theorem ofDecimal_shortest : ofDecimal (x.shortest negative) = .finite negative x := by
  rw [Magnitude.shortest]
  split
  · next h =>
    rw [Magnitude.eq_zero_of_significand h, ofDecimal]
    exact if_pos rfl
  · next h =>
    dsimp only
    cases hfound : (List.range' 1 17).findSome? (x.candidate? negative x.leadingExponent) with
    | none => exact ofDecimal_expansion negative x h
    | some d =>
      -- The search asks this very question of a candidate before it takes it.
      obtain ⟨count, -, hcandidate⟩ := List.exists_of_findSome?_eq_some hfound
      rw [Magnitude.candidate?] at hcandidate
      have hreads := List.find?_some hcandidate
      exact of_decide_eq_true hreads

end Binary64

end LeagueStandings
