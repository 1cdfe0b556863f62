import LeagueStandings.Proofs.Binary64.Rounding

/-!
# How far rounding goes

A quotient is rounded to a multiple of a power of two, its step, and the nearest multiple is its
magnitude unless it is too large (`map_units_ofRatio?`). A step is at most `2 ^ -52` of the quotient
or else a single unit, which bounds what rounding adds to a quotient of at least `2 ^ 52` units
(`units_mul_bounds`). It is never more than the step of the largest magnitudes, which bounds what
rounding takes away (`mul_unitsPerOne_le`).

A quotient is too large only if it lies half a step or more above the largest magnitude
(`exists_ofRatio?_of_lt`).
-/

namespace LeagueStandings

namespace Magnitude

/-- The step of the largest magnitudes, in units. -/
def coarsestStep : Nat := 1 <<< 2045

/-- The exponent of the step to which `n / den` is rounded, `n` being counted in units. -/
def stepExponent (n den : Nat) : Nat := (n / den).log2 - 52

/-- How many steps make up `n / den`, rounded. -/
def stepCount (n den : Nat) : Nat := roundDiv n (den <<< stepExponent n den)

variable {n num den : Nat} {x : Magnitude}

/-! ## One step -/

theorem stepExponent_eq_zero_or (hden : 0 < den) :
    stepExponent n den = 0 ∨ 0x10000000000000 * (den <<< stepExponent n den) ≤ n := by
  refine Decidable.or_iff_not_imp_left.mpr fun hne ↦ ?_
  have hlog : (n / den).log2 = 52 + stepExponent n den := by
    rw [stepExponent] at hne ⊢
    omega
  have hquotient : n / den ≠ 0 := by
    intro h
    rw [h, Nat.log2_zero] at hlog
    omega
  have hle : 2 ^ (52 + stepExponent n den) ≤ n / den := hlog ▸ Nat.log2_self_le hquotient
  have hmul := (Nat.le_div_iff_mul_le hden).mp hle
  rw [Nat.pow_add, Nat.mul_assoc] at hmul
  rwa [Nat.shiftLeft_eq, Nat.mul_comm den]

theorem lt_step (hden : 0 < den) : n < 0x20000000000000 * (den <<< stepExponent n den) := by
  have hexponent : (n / den).log2 + 1 ≤ 53 + stepExponent n den := by
    rw [stepExponent]
    omega
  have hlt : n / den < 2 ^ (53 + stepExponent n den) :=
    Nat.lt_of_lt_of_le Nat.lt_log2_self (Nat.pow_le_pow_right Nat.two_pos hexponent)
  have hmul := (Nat.div_lt_iff_lt_mul hden).mp hlt
  rw [Nat.pow_add, Nat.mul_assoc] at hmul
  rwa [Nat.shiftLeft_eq, Nat.mul_comm den]

private theorem step_pos (hden : 0 < den) (exponent : Nat) : 0 < den <<< exponent := by
  rw [Nat.shiftLeft_eq]
  exact Nat.mul_pos hden (Nat.two_pow_pos _)

theorem stepCount_le (hden : 0 < den) : stepCount n den ≤ 0x20000000000000 := by
  have hround := roundDiv_le n (step_pos hden (stepExponent n den))
  have hlt := lt_step (n := n) hden
  rw [← stepCount, Nat.mul_assoc] at hround
  have hmul : stepCount n den * (den <<< stepExponent n den) <
      (0x20000000000000 + 1) * (den <<< stepExponent n den) := by omega
  exact Nat.le_of_lt_succ (Nat.lt_of_mul_lt_mul_right hmul)

theorem le_stepCount (hden : 0 < den) :
    stepExponent n den = 0 ∨ 0x10000000000000 ≤ stepCount n den := by
  refine (stepExponent_eq_zero_or hden).imp_right fun hle ↦ ?_
  have hround := le_roundDiv n (step_pos hden (stepExponent n den))
  rw [← stepCount] at hround
  have hmul : (2 * 0x10000000000000) * (den <<< stepExponent n den) ≤
      (2 * stepCount n den + 1) * (den <<< stepExponent n den) := by omega
  have hcount := Nat.le_of_mul_le_mul_right hmul (step_pos hden _)
  omega

/-! ## The magnitude of a quotient -/

/-- `n / den` rounded, in units; it may be too large for a magnitude. -/
def roundedUnits (n den : Nat) : Nat := stepCount n den <<< stepExponent n den

theorem coarsestStep_mul (n : Nat) : coarsestStep * n = n <<< 2045 := by
  unfold coarsestStep
  generalize 2045 = last
  rw [Nat.shiftLeft_eq, Nat.shiftLeft_eq, Nat.one_mul, Nat.mul_comm]

private theorem shiftLeft_le_shiftLeft {exponent exponent' : Nat} (h : exponent ≤ exponent') :
    n <<< exponent ≤ n <<< exponent' := by
  rw [Nat.shiftLeft_eq, Nat.shiftLeft_eq]
  exact Nat.mul_le_mul_left _ (Nat.pow_le_pow_right Nat.two_pos h)

/-- So many steps are in range if the step is finer than the coarsest one, or just this one and
rounding has not carried. -/
private theorem lt_limit_iff {count exponent : Nat} (hle : count ≤ 0x20000000000000)
    (hcanonical : exponent = 0 ∨ 0x10000000000000 ≤ count) :
    count <<< exponent < 0x20000000000000 * coarsestStep ↔
      exponent + 1 ≤ 2045 ∨ exponent = 2045 ∧ count < 0x20000000000000 := by
  rw [Nat.mul_comm, coarsestStep_mul]
  generalize (2045 : Nat) = last
  simp only [Nat.shiftLeft_eq]
  rcases Nat.lt_trichotomy exponent last with hlt | rfl | hgt
  · refine iff_of_true ?_ (.inl hlt)
    calc count * 2 ^ exponent ≤ 0x20000000000000 * 2 ^ exponent := Nat.mul_le_mul_right _ hle
      _ < 0x20000000000000 * 2 ^ last :=
        Nat.mul_lt_mul_of_pos_left (Nat.pow_lt_pow_right (by decide) hlt) (by decide)
  · rw [Nat.mul_lt_mul_right (Nat.two_pow_pos _)]
    omega
  · refine iff_of_false (Nat.not_lt.mpr ?_) (by omega)
    have hcount : 0x10000000000000 ≤ count := hcanonical.resolve_left (by omega)
    calc 0x20000000000000 * 2 ^ last = 0x10000000000000 * 2 ^ (last + 1) := by
          rw [Nat.pow_succ, Nat.mul_comm (2 ^ last), ← Nat.mul_assoc]
      _ ≤ count * 2 ^ exponent :=
        Nat.mul_le_mul hcount (Nat.pow_le_pow_right Nat.two_pos hgt)

/-- **Rounding in units.** A quotient has the magnitude of so many units as it is rounded to, and
none if these are too many. -/
theorem map_units_ofRatio? (num : Nat) (hden : 0 < den) :
    (ofRatio? num den).map units =
      if roundedUnits (num * unitsPerOne) den < 0x20000000000000 * coarsestStep then
        some (roundedUnits (num * unitsPerOne) den)
      else none := by
  have hle := stepCount_le (n := num * unitsPerOne) hden
  have hcanonical := le_stepCount (n := num * unitsPerOne) hden
  have hlimit := lt_limit_iff hle hcanonical
  have hdefinition : ofRatio? num den =
      if h : stepCount (num * unitsPerOne) den < 0x20000000000000 ∧
          stepExponent (num * unitsPerOne) den ≤ 2045 ∧
          (stepExponent (num * unitsPerOne) den = 0 ∨
            0x10000000000000 ≤ stepCount (num * unitsPerOne) den) then
        some ⟨_, _, h.1, h.2.1, h.2.2⟩
      else if h : stepExponent (num * unitsPerOne) den + 1 ≤ 2045 then
        some ⟨0x10000000000000, _, by decide, h, .inr (by decide)⟩
      else none := rfl
  rw [hdefinition, roundedUnits]
  split
  · next h => rw [if_pos (hlimit.mpr (by omega))]; rfl
  split
  · next h hexponent =>
    -- All digits are ones, and rounding carries into one digit more.
    have hcount : stepCount (num * unitsPerOne) den = 0x10000000000000 * 2 := by omega
    rw [if_pos (hlimit.mpr (.inl hexponent)), Option.map_some, units, hcount, Nat.shiftLeft_eq,
      Nat.shiftLeft_eq, Nat.mul_assoc, ← Nat.pow_succ']
  · next h hexponent => rw [if_neg (mt hlimit.mp (by omega))]; rfl

theorem units_of_ofRatio? (hden : 0 < den) (h : ofRatio? num den = some x) :
    x.units = roundedUnits (num * unitsPerOne) den ∧
      x.units < 0x20000000000000 * coarsestStep := by
  have hmap := map_units_ofRatio? num hden
  rw [h, Option.map_some] at hmap
  split at hmap
  · next hlt => exact ⟨Option.some.inj hmap, Option.some.inj hmap ▸ hlt⟩
  · cases hmap

theorem units_le (x : Magnitude) : x.units ≤ 0x1FFFFFFFFFFFFF * coarsestStep := by
  have hsignificand : x.significand ≤ 0x1FFFFFFFFFFFFF := Nat.le_of_lt_succ x.significand_lt
  have hunits : x.units ≤ x.significand <<< 2045 := shiftLeft_le_shiftLeft x.exponent_le
  rw [← coarsestStep_mul, Nat.mul_comm] at hunits
  exact Nat.le_trans hunits (Nat.mul_le_mul_right _ hsignificand)

theorem units_eq_of_le (h : 0x10000000000000 * coarsestStep ≤ x.units) :
    x.exponent = 2045 ∧ x.units = x.significand * coarsestStep := by
  have hsignificand : x.significand < 0x20000000000000 := x.significand_lt
  have hexponent : x.exponent = 2045 := by
    refine Nat.le_antisymm x.exponent_le (Nat.not_lt.mp fun hlt ↦ Nat.not_lt.mpr h ?_)
    have hunits : x.significand <<< (x.exponent + 1) ≤ x.significand <<< 2045 :=
      shiftLeft_le_shiftLeft hlt
    rw [Nat.shiftLeft_succ, ← units, ← coarsestStep_mul, Nat.mul_comm coarsestStep] at hunits
    have hmul := Nat.mul_lt_mul_of_pos_right hsignificand (show 0 < coarsestStep by decide)
    omega
  exact ⟨hexponent, by rw [units, hexponent, ← coarsestStep_mul, Nat.mul_comm]⟩

/-! ## What rounding adds and takes away -/

private theorem roundedUnits_mul (n den : Nat) :
    roundedUnits n den * den = stepCount n den * (den <<< stepExponent n den) := by
  rw [roundedUnits, Nat.shiftLeft_eq, Nat.shiftLeft_eq, Nat.mul_assoc, Nat.mul_comm den]

theorem roundedUnits_mul_le (hden : 0 < den) :
    2 * (roundedUnits n den * den) ≤ 2 * n + den <<< stepExponent n den := by
  rw [roundedUnits_mul, ← Nat.mul_assoc]
  exact roundDiv_le n (step_pos hden _)

theorem le_roundedUnits_mul (hden : 0 < den) :
    2 * n ≤ 2 * (roundedUnits n den * den) + den <<< stepExponent n den := by
  have hround := le_roundDiv n (step_pos hden (stepExponent n den))
  rw [Nat.add_mul, Nat.one_mul, Nat.mul_assoc] at hround
  rw [roundedUnits_mul]
  exact hround

/-- Rounding adds to a quotient that is not small at most `2 ^ -53` of it, and takes away no more. -/
theorem units_mul_bounds (hden : 0 < den) (hlarge : 0x10000000000000 * den ≤ num * unitsPerOne)
    (h : ofRatio? num den = some x) :
    0x20000000000000 * (x.units * den) ≤ 0x20000000000001 * (num * unitsPerOne) ∧
      0x1FFFFFFFFFFFFF * (num * unitsPerOne) ≤ 0x20000000000000 * (x.units * den) := by
  rw [(units_of_ofRatio? hden h).1]
  have hhigh := roundedUnits_mul_le (n := num * unitsPerOne) hden
  have hlow := le_roundedUnits_mul (n := num * unitsPerOne) hden
  have hstep : 0x10000000000000 * (den <<< stepExponent (num * unitsPerOne) den) ≤
      num * unitsPerOne := by
    rcases stepExponent_eq_zero_or (n := num * unitsPerOne) hden with hzero | hle
    · rwa [hzero, Nat.shiftLeft_zero]
    · exact hle
  omega

/-- Rounding takes away at most half of the coarsest step. -/
theorem mul_unitsPerOne_le (hden : 0 < den) (h : ofRatio? num den = some x) :
    2 * (num * unitsPerOne) ≤ 2 * (x.units * den) + coarsestStep * den := by
  obtain ⟨hunits, hlimit⟩ := units_of_ofRatio? hden h
  rw [hunits] at hlimit ⊢
  have hexponent := (lt_limit_iff (stepCount_le hden) (le_stepCount hden)).mp hlimit
  have hround := le_roundedUnits_mul (n := num * unitsPerOne) hden
  have hstep : den <<< stepExponent (num * unitsPerOne) den ≤ coarsestStep * den := by
    rw [coarsestStep_mul]
    exact shiftLeft_le_shiftLeft (by omega)
  omega

/-- A quotient that lies less than half a step above the largest magnitude has a magnitude. -/
theorem exists_ofRatio?_of_lt (hden : 0 < den)
    (h : 2 * (num * unitsPerOne) < 0x3FFFFFFFFFFFFF * (coarsestStep * den)) :
    ∃ x, ofRatio? num den = some x := by
  rw [coarsestStep_mul] at h
  have hexponent : stepExponent (num * unitsPerOne) den ≤ 2045 := by
    refine Nat.not_lt.mp fun hgt ↦ ?_
    have hstep : den <<< (2045 + 1) ≤ den <<< stepExponent (num * unitsPerOne) den :=
      shiftLeft_le_shiftLeft hgt
    rw [Nat.shiftLeft_succ] at hstep
    have hle := stepExponent_eq_zero_or (n := num * unitsPerOne) hden
    omega
  have hcount : stepExponent (num * unitsPerOne) den = 2045 →
      stepCount (num * unitsPerOne) den < 0x20000000000000 := by
    intro hlast
    have hround := roundedUnits_mul_le (n := num * unitsPerOne) hden
    rw [roundedUnits_mul, hlast] at hround
    have hmul : stepCount (num * unitsPerOne) den * (den <<< 2045) <
        0x20000000000000 * (den <<< 2045) := by omega
    exact Nat.lt_of_mul_lt_mul_right hmul
  have hlimit : roundedUnits (num * unitsPerOne) den < 0x20000000000000 * coarsestStep :=
    (lt_limit_iff (stepCount_le hden) (le_stepCount hden)).mpr (by omega)
  have hmap := map_units_ofRatio? num hden
  rw [if_pos hlimit] at hmap
  obtain ⟨x, hx, -⟩ := Option.map_eq_some_iff.mp hmap
  exact ⟨x, hx⟩

theorem exists_ofRatio?_of_lt_two_pow (h : num < 2 ^ 64 * den) :
    ∃ x, ofRatio? num den = some x := by
  have hden : 0 < den := Nat.pos_of_ne_zero fun hzero ↦ by
    rw [hzero, Nat.mul_zero] at h
    exact Nat.not_lt_zero _ h
  have hlimit : 2 * (2 ^ 64 * unitsPerOne) ≤ 0x3FFFFFFFFFFFFF * coarsestStep := by decide +kernel
  refine exists_ofRatio?_of_lt hden ?_
  calc 2 * (num * unitsPerOne) < 2 * (2 ^ 64 * den * unitsPerOne) :=
        Nat.mul_lt_mul_of_pos_left (Nat.mul_lt_mul_of_pos_right h unitsPerOne_pos) Nat.two_pos
    _ = 2 * (2 ^ 64 * unitsPerOne) * den := by
      rw [Nat.mul_right_comm, Nat.mul_assoc 2]
    _ ≤ 0x3FFFFFFFFFFFFF * coarsestStep * den := Nat.mul_le_mul_right _ hlimit
    _ = 0x3FFFFFFFFFFFFF * (coarsestStep * den) := Nat.mul_assoc _ _ _

end Magnitude

theorem Binary64.isFinite_ofInt {n : Int} (h : n.natAbs < 2 ^ 64) : (ofInt n).isFinite = true := by
  have hratio : n.natAbs < 2 ^ 64 * 1 := h
  obtain ⟨x, hx⟩ := Magnitude.exists_ofRatio?_of_lt_two_pow hratio
  rw [ofInt, ofRatio, hx]
  rfl

end LeagueStandings
