import LeagueStandings.Text.Integer
import Mathlib.Logic.Function.Basic

/-!
# Integers as text

The decimal text of an integer is the usual one (`integer_eq_toString`) and tells which integer it
is (`integerChars_injective`). The two digits of a number below a hundred are always two
(`twoDigits_eq`), also where the first of them is a zero.
-/

namespace LeagueStandings.Text

theorem integer_eq_toString (n : Int) : integer n = toString n := by
  change integer n = n.repr
  rw [integer, integerChars, Int.repr_eq_if]
  by_cases h : 0 ≤ n
  · rw [if_pos h, if_neg (Int.not_lt.mpr h), List.nil_append, Nat.repr_eq_ofList_toDigits,
      show n.natAbs = n.toNat by omega]
  · rw [if_neg h, if_pos (Int.not_le.mp h), String.ofList_append, Nat.repr_eq_ofList_toDigits,
      show n.natAbs = (-n).toNat by omega]

theorem head?_toDigits_ne_minus (n : Nat) : (Nat.toDigits 10 n).head? ≠ some '-' := by
  intro h
  have hdigit := Nat.isDigit_of_mem_toDigits (by decide) (by decide) (List.mem_of_mem_head? h)
  cases hdigit

theorem toDigits_injective : Function.Injective (Nat.toDigits 10) := by
  intro m n h
  calc m = Nat.ofDigitChars 10 (Nat.toDigits 10 m) 0 := Nat.ofDigitChars_ten_toDigits.symm
    _ = Nat.ofDigitChars 10 (Nat.toDigits 10 n) 0 := by rw [h]
    _ = n := Nat.ofDigitChars_ten_toDigits

theorem integerChars_injective : Function.Injective integerChars := by
  intro m n h
  rw [integerChars, integerChars] at h
  -- The sign is told by the first character, and the absolute value by the others.
  by_cases hm : m < 0 <;> by_cases hn : n < 0
  · rw [if_pos hm, if_pos hn] at h
    have habs := toDigits_injective (List.append_cancel_left h)
    omega
  · rw [if_pos hm, if_neg hn] at h
    exact absurd (congrArg List.head? h).symm (head?_toDigits_ne_minus n.natAbs)
  · rw [if_neg hm, if_pos hn] at h
    exact absurd (congrArg List.head? h) (head?_toDigits_ne_minus m.natAbs)
  · rw [if_neg hm, if_neg hn] at h
    have habs := toDigits_injective (List.append_cancel_left h)
    omega

theorem twoDigits_eq {n : Nat} (h : n < 100) :
    twoDigits n = String.ofList [Nat.digitChar (n / 10), Nat.digitChar (n % 10)] := by
  rw [twoDigits]
  by_cases hn : n < 10
  · rw [if_pos hn, Nat.toDigits_of_lt_base hn, Nat.div_eq_of_lt hn, Nat.mod_eq_of_lt hn]
    rfl
  · have hsplit : Nat.toDigits 10 (n / 10) ++ Nat.toDigits 10 (n % 10) =
        Nat.toDigits 10 (10 * (n / 10) + n % 10) :=
      Nat.toDigits_append_toDigits (by decide) (by omega) (by omega)
    rw [if_neg hn, ← Nat.div_add_mod n 10, ← hsplit, Nat.div_add_mod,
      Nat.toDigits_of_lt_base (by omega), Nat.toDigits_of_lt_base (by omega)]
    rfl

end LeagueStandings.Text
