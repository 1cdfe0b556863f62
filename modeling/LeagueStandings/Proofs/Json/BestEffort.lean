import LeagueStandings.Json.BestEffort
import LeagueStandings.Proofs.Binary64.Bounds

/-!
# What reading with best effort accepts

Reading with best effort rounds several times, so that its result may be out of range although the
numeral is not. Dividing by a power of ten cannot do that (`exists_scale?_negSucc`). Multiplying by
one can, but each rounding adds at most `2 ^ -53` of what it rounds, and three of them reach the end
of the range only from the two largest magnitudes (`exists_scale?_ofNat`). Every other numeral that
is rounded to a magnitude is accepted (`exists_bestEffort?`).
-/

namespace LeagueStandings

namespace Magnitude

/-! ## Powers of ten -/

private theorem pow_ten_lt : ∀ k < 309,
    2 * (Nat.pow 10 k * unitsPerOne) < 0x3FFFFFFFFFFFFF * coarsestStep := by
  decide +kernel

/-- A power of ten in the range has a magnitude, which is hardly more than the power itself, and not
less than one unless the power is one. -/
theorem exists_powerOfTen? {k : Nat} (h : k ≤ 308) :
    ∃ power, powerOfTen? k = some power ∧
      0x20000000000000 * power.units ≤ 0x20000000000001 * (Nat.pow 10 k * unitsPerOne) ∧
      (0 < k → unitsPerOne ≤ power.units) := by
  have hlimit := pow_ten_lt k (Nat.lt_succ_of_le h)
  have hone : 0x10000000000000 ≤ unitsPerOne := by decide +kernel
  have hpos : unitsPerOne ≤ Nat.pow 10 k * unitsPerOne :=
    Nat.le_mul_of_pos_left _ (Nat.pow_pos (by decide))
  obtain ⟨power, hpower⟩ : ∃ power, ofRatio? (Nat.pow 10 k) 1 = some power :=
    exists_ofRatio?_of_lt Nat.one_pos (by omega)
  obtain ⟨hhigh, hlow⟩ := units_mul_bounds Nat.one_pos (by omega) hpower
  refine ⟨power, (if_pos h).trans hpower, by omega, fun hk ↦ ?_⟩
  have hten : 10 * unitsPerOne ≤ Nat.pow 10 k * unitsPerOne :=
    Nat.mul_le_mul_right _ (Nat.le_self_pow (Nat.ne_of_gt hk) 10)
  omega

/-! ## Divisions -/

theorem exists_div? (x : Magnitude) {y : Magnitude} (h : unitsPerOne ≤ y.units) :
    ∃ z, x.div? y = some z := by
  refine exists_ofRatio?_of_lt (Nat.lt_of_lt_of_le unitsPerOne_pos h) ?_
  have hx : x.units * unitsPerOne ≤ 0x1FFFFFFFFFFFFF * coarsestStep * y.units :=
    Nat.mul_le_mul x.units_le h
  have hpos : 0 < coarsestStep * y.units :=
    Nat.mul_pos (by decide) (Nat.lt_of_lt_of_le unitsPerOne_pos h)
  rw [Nat.mul_assoc] at hx
  omega

theorem exists_divideOften? (times : Nat) (x : Magnitude) :
    ∃ y, divideOften? times x = some y := by
  induction times generalizing x with
  | zero => exact ⟨x, rfl⟩
  | succ times ih =>
    rw [divideOften?]
    split
    · exact ⟨x, rfl⟩
    · obtain ⟨power, hpower, -, hone⟩ := exists_powerOfTen? (Nat.le_refl 308)
      obtain ⟨y, hy⟩ := x.exists_div? (hone (by decide))
      rw [hpower, Option.bind_some, hy, Option.bind_some]
      exact ih y

theorem exists_scale?_negSucc (x : Magnitude) (k : Nat) : ∃ y, x.scale? (.negSucc k) = some y := by
  obtain ⟨y, hy⟩ := exists_divideOften? (k / 308) x
  have hrest : k % 308 + 1 ≤ 308 := Nat.mod_lt k (by decide)
  obtain ⟨power, hpower, -, hone⟩ := exists_powerOfTen? hrest
  obtain ⟨z, hz⟩ := y.exists_div? (hone (Nat.succ_pos _))
  exact ⟨z, by rw [scale?, hy, Option.bind_some, hpower, Option.bind_some, hz]⟩

/-! ## Multiplications -/

private theorem le_pow_ten :
    0x3FFFFFFFFFFFFB * coarsestStep < 2 * (Nat.pow 10 309 * unitsPerOne) := by
  decide +kernel

/-- An integer and a power of ten are multiplied within the range, if their exact product lies two
and a half steps below the largest magnitude: the integer, the power and the product are rounded,
and the three roundings add less than that. -/
theorem exists_scale?_ofNat {value k : Nat} (hvalue : 0 < value)
    (h : 2 * (value * 10 ^ k * unitsPerOne) ≤ 0x3FFFFFFFFFFFFB * coarsestStep) :
    ∃ x y, ofRatio? value 1 = some x ∧ x.scale? (.ofNat k) = some y := by
  have hk : k ≤ 308 := by
    refine Nat.not_lt.mp fun hgt ↦ Nat.not_lt.mpr h ?_
    have hover := le_pow_ten
    have hgt : 309 ≤ k := hgt
    generalize 309 = limit at hover hgt
    have hpow : 10 ^ limit ≤ value * 10 ^ k :=
      Nat.le_trans (Nat.pow_le_pow_right (by decide) hgt) (Nat.le_mul_of_pos_left _ hvalue)
    exact Nat.lt_of_lt_of_le hover
      (Nat.mul_le_mul_left _ (Nat.mul_le_mul_right _ hpow))
  have hone : 0x10000000000000 ≤ unitsPerOne := by decide +kernel
  have hstep : 0 < coarsestStep := by decide
  have hvalue_le : value * unitsPerOne ≤ value * 10 ^ k * unitsPerOne :=
    Nat.mul_le_mul_right _ (Nat.le_mul_of_pos_right _ (Nat.pow_pos (by decide)))
  have hle_value : unitsPerOne ≤ value * unitsPerOne := Nat.le_mul_of_pos_left _ hvalue
  obtain ⟨x, hx⟩ : ∃ x, ofRatio? value 1 = some x :=
    exists_ofRatio?_of_lt Nat.one_pos (by omega)
  obtain ⟨power, hpower, hpower_le, -⟩ := exists_powerOfTen? hk
  have hx_le := (units_mul_bounds Nat.one_pos (by omega) hx).1
  rw [Nat.mul_one] at hx_le
  have hproduct : 0x20000000000000 * 0x20000000000000 * (x.units * power.units) ≤
      0x20000000000001 * 0x20000000000001 * (value * 10 ^ k * unitsPerOne * unitsPerOne) :=
    calc 0x20000000000000 * 0x20000000000000 * (x.units * power.units)
        = 0x20000000000000 * x.units * (0x20000000000000 * power.units) :=
          Nat.mul_mul_mul_comm _ _ _ _
      _ ≤ 0x20000000000001 * (value * unitsPerOne) *
            (0x20000000000001 * (10 ^ k * unitsPerOne)) := Nat.mul_le_mul hx_le hpower_le
      _ = 0x20000000000001 * 0x20000000000001 * (value * 10 ^ k * unitsPerOne * unitsPerOne) := by
          rw [Nat.mul_mul_mul_comm, Nat.mul_mul_mul_comm value, ← Nat.mul_assoc (value * 10 ^ k)]
  have hrange : 2 * (x.units * power.units) < 0x3FFFFFFFFFFFFF * (coarsestStep * unitsPerOne) := by
    have hmul := Nat.mul_le_mul_right unitsPerOne h
    have hpos := Nat.mul_pos hstep unitsPerOne_pos
    rw [Nat.mul_assoc 2, Nat.mul_assoc _ coarsestStep] at hmul
    omega
  obtain ⟨y, hy⟩ : ∃ y, x.mul? power = some y := by
    refine exists_ofRatio?_of_lt (Nat.mul_pos unitsPerOne_pos unitsPerOne_pos) ?_
    have hmul := Nat.mul_lt_mul_of_pos_right hrange unitsPerOne_pos
    rwa [Nat.mul_assoc 2, Nat.mul_assoc _ (coarsestStep * unitsPerOne),
      Nat.mul_assoc coarsestStep] at hmul
  refine ⟨x, ?_⟩
  rw [scale?]
  split
  · exact ⟨x, hx, rfl⟩
  · exact ⟨y, hx, by rw [hpower, Option.bind_some, hy]⟩

end Magnitude

namespace Numeral

/-! ## Digits -/

theorem mul_pow_le_ofDigitChars (value : Nat) (cs : List Char) :
    value * 10 ^ cs.length ≤ Nat.ofDigitChars 10 cs value := by
  induction cs generalizing value with
  | nil => exact Nat.le_of_eq (Nat.mul_one value)
  | cons c cs ih =>
    rw [Nat.ofDigitChars_cons, List.length_cons, Nat.pow_succ', ← Nat.mul_assoc,
      Nat.mul_comm value]
    exact Nat.le_trans (Nat.mul_le_mul_right _ (Nat.le_add_right _ _)) (ih _)

/-- **Digits that are taken** stand in front of those that are left over, and the first of these
would not have fitted. -/
theorem exists_takeDigits {value : Nat} (h : value < 0x10000000000000000) (cs : List Char) :
    ∃ taken rest, cs = taken ++ rest ∧
      takeDigits value cs = (Nat.ofDigitChars 10 taken value, rest) ∧
      Nat.ofDigitChars 10 taken value < 0x10000000000000000 ∧
      ∀ c ∈ rest.head?,
        0x10000000000000000 ≤ 10 * Nat.ofDigitChars 10 taken value + (c.toNat - '0'.toNat) := by
  induction cs generalizing value with
  | nil => exact ⟨[], [], rfl, rfl, h, fun _ hc ↦ nomatch hc⟩
  | cons c cs ih =>
    by_cases hfits : 10 * value + (c.toNat - '0'.toNat) < 0x10000000000000000
    · obtain ⟨taken, rest, rfl, htake, hlt, hnext⟩ := ih hfits
      refine ⟨c :: taken, rest, rfl, ?_, hlt, hnext⟩
      rw [takeDigits]
      exact (if_pos hfits).trans htake
    · refine ⟨[], c :: cs, rfl, if_neg hfits, h, fun c' hc ↦ ?_⟩
      obtain rfl := Option.some.inj hc
      exact Nat.not_lt.mp hfits

/-- **What a numeral is read as** is an integer of 64 bits and a power of ten, and with the digits
that are left over taken as zeros it is no more than the numeral says. -/
theorem exists_parts (n : Numeral) :
    ∃ value left, n.parts = (value, n.decimal.exponent + (left : Nat)) ∧
      value < 0x10000000000000000 ∧ value * 10 ^ left ≤ n.decimal.coefficient := by
  obtain ⟨taken, rest, hwhole, htake, hlt, hnext⟩ :=
    exists_takeDigits (show 0 < 0x10000000000000000 by decide) n.whole
  obtain ⟨taken', rest', hfraction, htake', hlt', -⟩ :=
    exists_takeDigits hlt (n.fraction.getD [])
  refine ⟨_, rest.length + rest'.length, ?_, hlt', ?_⟩
  · rw [parts, htake]
    dsimp only
    rw [htake']
  · have hcoefficient : n.decimal.coefficient =
        Nat.ofDigitChars 10 (rest ++ taken' ++ rest') (Nat.ofDigitChars 10 taken 0) := by
      rw [decimal, hwhole, hfraction]
      simp only [Nat.ofDigitChars_append]
    rw [hcoefficient]
    cases taken' with
    | nil =>
      rw [List.append_nil, ← List.length_append]
      exact mul_pow_le_ofDigitChars _ _
    | cons digit taken' =>
      cases rest with
      | nil =>
        rw [List.nil_append, Nat.ofDigitChars_append, List.length_nil, Nat.zero_add]
        exact mul_pow_le_ofDigitChars _ _
      | cons c rest =>
        -- A digit behind the point was taken, though one in front of it had not fitted.
        have hfull := hnext c rfl
        have hlength : (c :: rest).length + rest'.length ≤
            (rest ++ digit :: taken' ++ rest').length := by
          simp only [List.length_append, List.length_cons]
          omega
        calc Nat.ofDigitChars 10 (digit :: taken') _ * 10 ^ ((c :: rest).length + rest'.length)
            ≤ (10 * Nat.ofDigitChars 10 taken 0 + (c.toNat - '0'.toNat)) *
                10 ^ (rest ++ digit :: taken' ++ rest').length :=
              Nat.mul_le_mul (Nat.le_trans (Nat.le_of_lt hlt') hfull)
                (Nat.pow_le_pow_right (by decide) hlength)
          _ ≤ Nat.ofDigitChars 10 (c :: rest ++ digit :: taken' ++ rest') _ :=
              mul_pow_le_ofDigitChars _ _

/-! ## Numerals that are accepted -/

theorem ofRatio?_of_ofDecimal {d : Decimal} {negative : Bool} {x : Magnitude}
    (h : Binary64.ofDecimal d = .finite negative x) (hne : d.coefficient ≠ 0)
    (hscale : -330 ≤ d.scale) :
    Magnitude.ofRatio? (d.coefficient * 10 ^ d.exponent.toNat) (10 ^ (-d.exponent).toNat) =
      some x := by
  have hle : d.scale ≤ 310 := by
    refine Int.not_lt.mp fun hgt ↦ ?_
    rw [Binary64.ofDecimal, if_neg hne, if_pos hgt] at h
    cases h
  rw [Binary64.ofDecimal_eq_ofRatio hne hle hscale, Binary64.ofRatio] at h
  cases hratio : Magnitude.ofRatio? (d.coefficient * 10 ^ d.exponent.toNat)
      (10 ^ (-d.exponent).toNat) with
  | none =>
    rw [hratio] at h
    cases h
  | some y =>
    rw [hratio] at h
    cases h
    rfl

/-- What is left of a numeral without its last digits, where that is an integer, lies at most half a
step above the magnitude that the numeral is rounded to. -/
theorem value_le_of_ofDecimal {d : Decimal} {negative : Bool} {x : Magnitude} {value left k : Nat}
    (h : Binary64.ofDecimal d = .finite negative x) (hvalue : 0 < value)
    (hle : value * 10 ^ left ≤ d.coefficient) (hk : d.exponent + left = k) :
    2 * (value * 10 ^ k * Magnitude.unitsPerOne) ≤ 2 * x.units + Magnitude.coarsestStep := by
  have hpow : ∀ count, 0 < 10 ^ count := fun count ↦ Nat.pow_pos (by decide)
  have hcoefficient : 10 ^ left ≤ d.coefficient :=
    Nat.le_trans (Nat.le_mul_of_pos_left _ hvalue) hle
  have hscale : 0 ≤ d.scale := by
    have hdigits : left ≤ d.digits.length := by
      refine Nat.not_lt.mp fun hlt ↦ Nat.not_lt.mpr hcoefficient ?_
      exact (Nat.length_toDigits_le_iff (by decide) (Nat.zero_lt_of_lt hlt)).mp (Nat.le_of_lt hlt)
    rw [Decimal.scale]
    omega
  have hne : d.coefficient ≠ 0 := Nat.ne_of_gt (Nat.lt_of_lt_of_le (hpow left) hcoefficient)
  have hratio := ofRatio?_of_ofDecimal h hne (by omega)
  have hden := hpow (-d.exponent).toNat
  have hround := Magnitude.mul_unitsPerOne_le hden hratio
  have hnum : value * 10 ^ k * 10 ^ (-d.exponent).toNat ≤
      d.coefficient * 10 ^ d.exponent.toNat := by
    have hpowers : k + (-d.exponent).toNat = left + d.exponent.toNat := by omega
    rw [Nat.mul_assoc, ← Nat.pow_add, hpowers, Nat.pow_add, ← Nat.mul_assoc]
    exact Nat.mul_le_mul_right _ hle
  refine Nat.le_of_mul_le_mul_right ?_ hden
  calc 2 * (value * 10 ^ k * Magnitude.unitsPerOne) * 10 ^ (-d.exponent).toNat
      = 2 * (value * 10 ^ k * 10 ^ (-d.exponent).toNat * Magnitude.unitsPerOne) := by
        rw [Nat.mul_assoc, Nat.mul_right_comm]
    _ ≤ 2 * (d.coefficient * 10 ^ d.exponent.toNat * Magnitude.unitsPerOne) :=
        Nat.mul_le_mul_left _ (Nat.mul_le_mul_right _ hnum)
    _ ≤ 2 * (x.units * 10 ^ (-d.exponent).toNat) +
          Magnitude.coarsestStep * 10 ^ (-d.exponent).toNat := hround
    _ = (2 * x.units + Magnitude.coarsestStep) * 10 ^ (-d.exponent).toNat := by
        rw [Nat.add_mul, Nat.mul_assoc]

/-- **Reading with best effort** accepts every numeral that is rounded to a magnitude, unless that
is one of the two largest. -/
theorem exists_bestEffort? {n : Numeral} {negative : Bool} {x : Magnitude}
    (h : n.binary64 = .finite negative x)
    (hx : x.units ≤ 0x1FFFFFFFFFFFFD * Magnitude.coarsestStep) : ∃ y, n.bestEffort? = some y := by
  obtain ⟨value, left, hparts, hlt, hle⟩ := n.exists_parts
  rw [bestEffort?, hparts]
  dsimp only
  rcases hexponent : n.decimal.exponent + left with k | k
  · rcases Nat.eq_zero_or_pos value with rfl | hvalue
    · have hzero : Magnitude.ofRatio? 0 1 = some .zero := by decide
      rw [hzero, Option.bind_some, Magnitude.scale?]
      exact ⟨_, if_pos rfl⟩
    · have hbound := value_le_of_ofDecimal h hvalue hle hexponent
      obtain ⟨y, z, hy, hz⟩ :=
        Magnitude.exists_scale?_ofNat (k := k) hvalue (by omega)
      exact ⟨z, by rw [hy, Option.bind_some, hz]⟩
  · have hratio : value < 2 ^ 64 * 1 := hlt
    obtain ⟨y, hy⟩ := Magnitude.exists_ofRatio?_of_lt_two_pow hratio
    obtain ⟨z, hz⟩ := y.exists_scale?_negSucc k
    exact ⟨z, by rw [hy, Option.bind_some, hz]⟩

end Numeral

end LeagueStandings
