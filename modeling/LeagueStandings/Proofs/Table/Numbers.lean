import LeagueStandings.Proofs.Binary64.Integers
import LeagueStandings.Table.Cell
import Mathlib.Algebra.Order.Field.Rat
import Mathlib.Algebra.Order.Group.Unbundled.Int
import Mathlib.Data.List.TakeWhile
import Mathlib.Data.Rat.Cast.Order

/-!
# The numbers in cells

A cell denotes a number if it is a number or spells one (`Json.value?`). What it denotes is an exact
rational number, and nothing is said of how it is stored: `12`, `12.0` and the texts `12` and `1.2e1`
denote the same.

An integer column should take over the numbers that it can hold and refuse the others. For text it
does. A number that is not text is refused for a fraction only. An integer beyond 64 bits is brought
into the range instead (`readsExactly_iff`), so that different numbers may read as the same.
-/

namespace LeagueStandings

/-! ## What is denoted -/

/-- The number that a decimal is. -/
def Decimal.value (d : Decimal) : ℚ :=
  (if d.negative then -1 else 1) * d.coefficient * 10 ^ d.exponent

/-- The number that a JSON number is. -/
def JsonNumber.value : JsonNumber → ℚ
  | integer n _ => n
  | real negative x => Binary64.signedUnits negative x / (Magnitude.unitsPerOne : Nat)

/-- The number that a text spells, blanks around it aside. -/
def numberOfText? (s : String) : Option ℚ :=
  match Numeral.ofChars? (Text.trim s).toList with
  | none => none
  | some n => if n.whole = [] ∧ n.fraction.getD [] = [] then none else some n.decimal.value

/-- The number that a cell denotes, if it does. -/
def Json.value? : Json → Option ℚ
  | .num x => some x.value
  | .str s => numberOfText? s
  | _ => none

@[simp] theorem Json.value?_num (x : JsonNumber) : (num x).value? = some x.value := rfl

@[simp] theorem Json.value?_str (s : String) : (str s).value? = numberOfText? s := by
  rw [value?]

/-- The number lies between the least and the greatest integer of 64 bits with sign. -/
def Integer64.InRange (q : ℚ) : Prop := -0x8000000000000000 ≤ q ∧ q ≤ 0x7FFFFFFFFFFFFFFF

theorem Integer64.inRange_intCast {n : Int} : InRange n ↔ Holds n := by
  unfold InRange
  norm_cast

/-! ## Numbers -/

namespace JsonNumber

variable {x : JsonNumber} {n : Int}

private theorem div_eq_intCast_iff {num n : Int} {den : Nat} (h : 0 < den) :
    (num : ℚ) / den = n ↔ num = n * den := by
  rw [div_eq_iff (Nat.cast_ne_zero.mpr (Nat.ne_of_gt h))]
  norm_cast

theorem value_real_eq_iff {negative : Bool} {m : Magnitude} :
    (real negative m).value = n ↔ (Binary64.finite negative m).toInt? = some n := by
  rw [value]
  exact (div_eq_intCast_iff Magnitude.unitsPerOne_pos).trans
    Binary64.toInt?_finite_eq_some_iff.symm

theorem integerCell_of_int64? {i : Int64} (h : x.int64? = some i) :
    (Json.num x).integerCell = .ok (some i) := by
  rw [Json.integerCell, h]

theorem integerCell_of_toInt? (hsigned : x.int64? = none) (h : x.binary64.toInt? = some n) :
    (Json.num x).integerCell = .ok (some (Int64.ofIntClamp n)) := by
  rw [Json.integerCell, hsigned, h]

/-- An integer column takes every integer, the ones beyond 64 bits being brought into the range. -/
theorem integerCell_of_value_eq (h : x.value = n) :
    (Json.num x).integerCell = .ok (some (Int64.ofIntClamp n)) := by
  cases x with
  | real negative m => exact integerCell_of_toInt? rfl (value_real_eq_iff.mp h)
  | integer m hm =>
    obtain rfl : m = n := Int.cast_injective h
    cases hfit : Integer64.ofInt? m with
    | some i =>
      rw [Integer64.ofIntClamp_of_ofInt? hfit]
      exact integerCell_of_int64? hfit
    | none =>
      -- Only an unsigned integer of 64 bits gets here, and it lies above the range.
      have hlarge : 0x7FFFFFFFFFFFFFFF < m := by
        have := Integer64.ofInt?_eq_none_iff.mp hfit
        omega
      obtain ⟨k, hk, hklarge⟩ := Binary64.exists_toInt?_ofInt hlarge hm.2
      have hend : Int64.ofIntClamp m = Int64.ofIntClamp k := by
        rw [Integer64.ofIntClamp_eq_iff]
        omega
      rw [hend]
      exact integerCell_of_toInt? hfit hk

theorem exists_refusal_of_value_ne (h : ∀ n : Int, x.value ≠ n) :
    ∃ refusal, (Json.num x).integerCell = .error refusal := by
  cases x with
  | integer m hm => exact absurd rfl (h m)
  | real negative m =>
    have hnone : (real negative m).binary64.toInt? = none := by
      rw [Option.eq_none_iff_forall_ne_some]
      intro n hn
      exact h n (value_real_eq_iff.mpr hn)
    exact ⟨⟨.integer, _⟩, by rw [Json.integerCell, hnone]; rfl⟩

end JsonNumber

/-! ## Text -/

theorem Numeral.value_of_isPlain {n : Numeral} (h : n.isPlain = true) :
    n.decimal.value = n.integer := by
  obtain ⟨hfraction, hexponent⟩ : n.fraction = none ∧ n.exponent = none := by
    simpa [isPlain] using h
  have hdecimal : n.decimal = ⟨n.isNegative, n.wholeValue, 0⟩ := by
    simp [decimal, hfraction, exponentValue, hexponent, wholeValue]
  rw [hdecimal, Decimal.value, integer]
  split <;> simp

section Text

variable {cs : List Char} {s : String} {i : Int64}

private theorem exists_of_int64OfChars? (h : int64OfChars? cs = some i) :
    ∃ n, Numeral.ofChars? cs = some n ∧ n.whole ≠ [] ∧ n.decimal.value = i.toInt := by
  rw [int64OfChars?] at h
  split at h
  · cases h
  · next n hn =>
    split at h
    · next hplain =>
      refine ⟨n, hn, hplain.2, ?_⟩
      rw [Numeral.value_of_isPlain hplain.1, Integer64.ofInt?_eq_some_iff.mp h]
    · cases h

theorem numberOfText?_of_isBlankText (h : Text.isBlankText s = true) : numberOfText? s = none := by
  have htrim : (Text.trim s).toList = [] := by
    have hstart : Text.trimStart s.toList = [] := by
      rw [Text.trimStart, List.dropWhile_eq_nil_iff]
      exact List.all_eq_true.mp h
    rw [Text.trim, hstart]
    rfl
  rw [numberOfText?, htrim]
  rfl

theorem numberOfText?_of_integerCell (h : (Json.str s).integerCell = .ok (some i)) :
    numberOfText? s = some (i.toInt : ℚ) := by
  rw [Json.integerCell] at h
  split at h
  · cases h
  · split at h
    · next j hj =>
      cases h
      obtain ⟨n, hn, hwhole, hvalue⟩ := exists_of_int64OfChars? hj
      rw [numberOfText?, hn]
      simp [hwhole, hvalue]
    · cases h

theorem exists_refusal_of_numberOfText? {q : ℚ} (h : numberOfText? s = some q)
    (hq : ¬ Integer64.InRange q) : ∃ refusal, (Json.str s).integerCell = .error refusal := by
  have hblank : ¬ Text.isBlankText s = true := by
    intro hblank
    rw [numberOfText?_of_isBlankText hblank] at h
    cases h
  rw [Json.integerCell, if_neg hblank]
  split
  · next i hi =>
    obtain ⟨n, hn, hwhole, hvalue⟩ := exists_of_int64OfChars? hi
    rw [numberOfText?, hn] at h
    obtain rfl : (i.toInt : ℚ) = q := by simpa [hwhole, hvalue] using h
    exact absurd (Integer64.inRange_intCast.mpr (Integer64.holds_toInt i)) hq
  · exact ⟨_, rfl⟩

end Text

/-! ## Reading exactly -/

namespace Json

variable {cell : Json} {i : Int64}

/-- Read as an integer, the cell keeps its number or is refused. -/
structure ReadsExactly (cell : Json) : Prop where
  /-- The integer that is read is the number that the cell denotes. -/
  exact : ∀ i, cell.integerCell = .ok (some i) → cell.value? = some (i.toInt : ℚ)
  /-- A number beyond 64 bits is refused. -/
  refused : ∀ q, cell.value? = some q → ¬ Integer64.InRange q →
    ∃ refusal, cell.integerCell = .error refusal

/-- The cell is a number, an integer, and has more than 64 bits. -/
def Overflows (cell : Json) : Prop :=
  ∃ (x : JsonNumber) (n : Int), cell = .num x ∧ x.value = n ∧ ¬ Integer64.Holds n

theorem exists_of_integerCell (h : cell.integerCell = .ok (some i)) :
    ∃ n : Int, cell.value? = some (n : ℚ) ∧ i = Int64.ofIntClamp n := by
  cases cell with
  | num x =>
    by_cases hint : ∃ n : Int, x.value = n
    · obtain ⟨n, hn⟩ := hint
      rw [JsonNumber.integerCell_of_value_eq hn] at h
      cases h
      exact ⟨n, by rw [value?_num, hn], rfl⟩
    · obtain ⟨refusal, hrefusal⟩ :=
        JsonNumber.exists_refusal_of_value_ne fun n hn ↦ hint ⟨n, hn⟩
      rw [hrefusal] at h
      cases h
  | str s =>
    refine ⟨i.toInt, ?_, (Integer64.ofIntClamp_of_ofInt? (Integer64.ofInt?_toInt i)).symm⟩
    rw [value?_str, numberOfText?_of_integerCell h]
  | null => cases h
  | bool _ => cases h
  | arr _ => cases h
  | obj _ => cases h

/-- An integer beyond 64 bits is read as the nearest one that can be held, which is another. -/
theorem exists_of_overflows (h : cell.Overflows) :
    ∃ n : Int, cell.value? = some (n : ℚ) ∧ ¬ Integer64.Holds n ∧
      cell.integerCell = .ok (some (Int64.ofIntClamp n)) := by
  obtain ⟨x, n, rfl, hn, hholds⟩ := h
  exact ⟨n, by rw [value?_num, hn], hholds, JsonNumber.integerCell_of_value_eq hn⟩

/-- What is read of a cell is the number that it denotes, unless the cell overflows. -/
theorem value?_eq_some_iff (h : cell.integerCell = .ok (some i)) :
    cell.value? = some (i.toInt : ℚ) ↔ ¬ cell.Overflows := by
  constructor
  · intro hvalue hoverflows
    obtain ⟨n, hn, hholds, hread⟩ := exists_of_overflows hoverflows
    cases h.symm.trans hread
    rw [hn, Option.some.injEq, Int.cast_inj] at hvalue
    exact hholds (Integer64.toInt_ofIntClamp_eq_iff.mp hvalue.symm)
  · intro hfits
    cases cell with
    | num x =>
      obtain ⟨n, hn, rfl⟩ := exists_of_integerCell h
      have hholds : Integer64.Holds n := by
        by_contra hholds
        rw [value?_num, Option.some.injEq] at hn
        exact hfits ⟨x, n, rfl, hn, hholds⟩
      rw [hn, Integer64.toInt_ofIntClamp_eq_iff.mpr hholds]
    | str s => rw [value?_str, numberOfText?_of_integerCell h]
    | null => cases h
    | bool _ => cases h
    | arr _ => cases h
    | obj _ => cases h

/-- **Which cells are read exactly.** All but the numbers that are integers beyond 64 bits. -/
theorem readsExactly_iff : cell.ReadsExactly ↔ ¬ cell.Overflows := by
  constructor
  · rintro ⟨hexact, -⟩ hoverflows
    obtain ⟨n, -, -, hread⟩ := exists_of_overflows hoverflows
    exact (value?_eq_some_iff hread).mp (hexact _ hread) hoverflows
  · intro hfits
    refine ⟨fun i hread ↦ (value?_eq_some_iff hread).mpr hfits, ?_⟩
    intro q hq hrange
    cases cell with
    | num x =>
      rw [value?_num, Option.some.injEq] at hq
      refine JsonNumber.exists_refusal_of_value_ne fun n hn ↦ hfits ⟨x, n, rfl, hn, ?_⟩
      rwa [← Integer64.inRange_intCast, ← hn, hq]
    | str s =>
      rw [value?_str] at hq
      exact exists_refusal_of_numberOfText? hq hrange
    | null => cases hq
    | bool _ => cases hq
    | arr _ => cases hq
    | obj _ => cases hq

end Json

end LeagueStandings
