import LeagueStandings.Integer64
import LeagueStandings.Proofs.Binary64.Rounding

/-!
# Integers beyond 64 bits

A finite number is asked whether it is an integer in units of `2 ^ -1074`, where the question is one
of divisibility (`toInt?_finite_eq_some_iff`). An integer that is not one of 64 bits with sign can
still be a binary64 number, and then it is moved to the nearest end of that range.

An unsigned integer of 64 bits is rounded before it is asked. That does not bring it into the
range, because `2 ^ 63` is a number of the format and rounding keeps to one side of it
(`exists_toInt?_ofInt`).
-/

namespace LeagueStandings

/-! ## The ends of the range -/

namespace Integer64

variable {n : Int}

/-- The integer is one of 64 bits with sign. -/
abbrev Holds (n : Int) : Prop := -0x8000000000000000 ≤ n ∧ n ≤ 0x7FFFFFFFFFFFFFFF

theorem holds_toInt (i : Int64) : Holds i.toInt :=
  ⟨i.le_toInt, Int.le_of_lt_add_one i.toInt_lt⟩

theorem exists_ofInt?_iff : (∃ i, ofInt? n = some i) ↔ Holds n := by
  constructor
  · rintro ⟨i, hi⟩
    exact ofInt?_eq_some_iff.mp hi ▸ holds_toInt i
  · rintro ⟨hlow, hhigh⟩
    refine ⟨Int64.ofIntLE n hlow hhigh, ofInt?_eq_some_iff.mpr Int64.toInt_ofIntLE⟩

theorem ofInt?_eq_none_iff : ofInt? n = none ↔ ¬ Holds n := by
  rw [← exists_ofInt?_iff, ← Option.ne_none_iff_exists', ne_eq, Decidable.not_not]

/-- Clamping keeps the integers of the range and moves the others to its nearest end. -/
theorem toInt_ofIntClamp (n : Int) :
    (Int64.ofIntClamp n).toInt = max (-0x8000000000000000) (min n 0x7FFFFFFFFFFFFFFF) := by
  have hmin : Int64.minValue.toInt = -0x8000000000000000 := rfl
  have hmax : Int64.maxValue.toInt = 0x7FFFFFFFFFFFFFFF := rfl
  unfold Int64.ofIntClamp
  split
  · split
    · rw [Int64.toInt_ofIntLE]
      omega
    · omega
  · omega

theorem toInt_ofIntClamp_eq_iff : (Int64.ofIntClamp n).toInt = n ↔ Holds n := by
  rw [toInt_ofIntClamp, Holds]
  omega

theorem ofIntClamp_of_ofInt? {i : Int64} (h : ofInt? n = some i) : Int64.ofIntClamp n = i := by
  have hn := ofInt?_eq_some_iff.mp h
  rw [← Int64.toInt_inj, toInt_ofIntClamp_eq_iff.mpr (hn ▸ holds_toInt i), hn]

/-- Different integers are told apart unless both are moved to, or stand at, one end. -/
theorem ofIntClamp_eq_iff {m : Int} : Int64.ofIntClamp m = Int64.ofIntClamp n ↔
    m = n ∨ (0x7FFFFFFFFFFFFFFF ≤ m ∧ 0x7FFFFFFFFFFFFFFF ≤ n) ∨
      (m ≤ -0x8000000000000000 ∧ n ≤ -0x8000000000000000) := by
  rw [← Int64.toInt_inj, toInt_ofIntClamp, toInt_ofIntClamp]
  omega

end Integer64

/-! ## Rounding large integers -/

namespace Magnitude

theorem exists_ofRatio?_of_le {n : Nat} (hlow : 0x8000000000000000 ≤ n)
    (hhigh : n < 0x10000000000000000) :
    ∃ x whole, ofRatio? n 1 = some x ∧ x.units = whole * unitsPerOne ∧
      0x8000000000000000 ≤ whole := by
  -- The exponent of the units of one is only ever added to.
  obtain ⟨one, hunitsPerOne, hone⟩ : ∃ one, unitsPerOne = 2 ^ one ∧ one ≤ 2000 :=
    ⟨1074, unitsPerOne_eq, by decide⟩
  have heleven : 2 ^ 11 = 0x800 := rfl
  have hlog : (n * unitsPerOne / 1).log2 - 52 = 11 + one := by
    have hlength : (n * 2 ^ one).log2 = 63 + one := log2_mul_two_pow hlow hhigh one
    rw [Nat.div_one, hunitsPerOne, hlength]
    omega
  have hround : roundDiv (n * unitsPerOne) (1 <<< (11 + one)) = roundDiv n 0x800 := by
    rw [Nat.shiftLeft_eq, Nat.one_mul, Nat.pow_add, hunitsPerOne, heleven,
      roundDiv_mul_mul n 0x800 (Nat.two_pow_pos _)]
  have hsignificand : 0x10000000000000 ≤ roundDiv n 0x800 := by
    have hbound : 2 * n ≤ (2 * roundDiv n 0x800 + 1) * 0x800 := le_roundDiv n (by decide)
    omega
  -- A unit of the significand is `2 ^ 11`, so that every multiple of it is an integer.
  have hunits : ∀ significand exponent : Nat,
      significand <<< (11 + one + exponent) = significand <<< exponent * 0x800 * unitsPerOne := by
    intro significand exponent
    rw [Nat.shiftLeft_eq, Nat.shiftLeft_eq, hunitsPerOne, Nat.add_comm, Nat.pow_add, Nat.pow_add,
      heleven, Nat.mul_assoc, Nat.mul_assoc]
  unfold ofRatio?
  simp only [hlog, hround]
  split
  · next h =>
    refine ⟨_, roundDiv n 0x800 <<< 0 * 0x800, rfl, hunits _ 0, ?_⟩
    rw [Nat.shiftLeft_zero]
    omega
  · rw [dif_pos (by omega)]
    exact ⟨_, 0x10000000000000 <<< 1 * 0x800, rfl, hunits _ 1, by decide⟩

end Magnitude

namespace Binary64

theorem toInt?_finite_eq_some_iff {negative : Bool} {x : Magnitude} {n : Int} :
    (finite negative x).toInt? = some n ↔
      signedUnits negative x = n * (Magnitude.unitsPerOne : Nat) := by
  have hpos : (0 : Int) < (Magnitude.unitsPerOne : Nat) :=
    Int.natCast_pos.mpr Magnitude.unitsPerOne_pos
  have hdvd : x.units % Magnitude.unitsPerOne = 0 ↔
      ((Magnitude.unitsPerOne : Nat) : Int) ∣ signedUnits negative x := by
    rw [← Nat.dvd_iff_mod_eq_zero, ← Int.natCast_dvd_natCast, signedUnits]
    cases negative <;> simp
  rw [toInt?]
  split
  · next h =>
    rw [Option.some.injEq, Int.ediv_eq_iff_eq_mul_left (Int.ne_of_gt hpos) (hdvd.mp h)]
  · next h =>
    refine iff_of_false (by simp) fun heq ↦ h (hdvd.mpr ?_)
    exact heq ▸ Int.dvd_mul_left _ _

/-- An unsigned integer of 64 bits that is beyond the ones with sign stays beyond them. -/
theorem exists_toInt?_ofInt {n : Int} (hlow : 0x7FFFFFFFFFFFFFFF < n)
    (hhigh : n < 0x10000000000000000) :
    ∃ m, (ofInt n).toInt? = some m ∧ 0x7FFFFFFFFFFFFFFF < m := by
  obtain ⟨x, whole, hx, hunits, hwhole⟩ :=
    Magnitude.exists_ofRatio?_of_le (n := n.natAbs) (by omega) (by omega)
  refine ⟨whole, ?_, by omega⟩
  have hsign : decide (n < 0) = false := decide_eq_false (by omega)
  rw [ofInt, ofRatio, hx, hsign, Option.elim_some, toInt?_finite_eq_some_iff]
  simp [signedUnits, hunits]

end Binary64

end LeagueStandings
