import LeagueStandings.Binary64.Basic

/-!
# The order of binary64 numbers

The comparison of IEEE 754 is transitive, and of any two numbers one is at most the other. NaN is
the exception in both roles: nothing is at most NaN, and NaN is at most nothing. So `x ≤ y` and
`¬ y < x` are the same thing for numbers (`le_iff_lt_eq_false`), and not for NaN, where a strict
comparison is false and says nothing.
-/

namespace LeagueStandings.Binary64

variable {x y z : Binary64}

@[simp] theorem nan_le (x : Binary64) : nan.le x = false := rfl

@[simp] theorem le_nan (x : Binary64) : x.le nan = false := by
  rcases x with _ | ⟨_ | _⟩ | _ <;> rfl

@[simp] theorem lt_nan (x : Binary64) : x.lt nan = false := by simp [lt]

theorem ne_nan_of_le (h : x.le y = true) : x ≠ nan ∧ y ≠ nan := by
  constructor
  · rintro rfl
    simp at h
  · rintro rfl
    simp at h

theorem le_self_iff : x.le x = true ↔ x ≠ nan := by
  rcases x with _ | ⟨_ | _⟩ | _ <;> simp [le]

theorem le_total (hx : x ≠ nan) (hy : y ≠ nan) : x.le y = true ∨ y.le x = true := by
  rcases x with _ | ⟨_ | _⟩ | ⟨s, x⟩
  · exact absurd rfl hx
  all_goals rcases y with _ | ⟨_ | _⟩ | ⟨t, y⟩
  any_goals first | exact absurd rfl hy | exact .inl rfl | exact .inr rfl
  simp only [le, decide_eq_true_eq]
  exact Int.le_total _ _

theorem le_trans (hxy : x.le y = true) (hyz : y.le z = true) : x.le z = true := by
  have hx := (ne_nan_of_le hxy).1
  have hz := (ne_nan_of_le hyz).2
  rcases x with _ | ⟨_ | _⟩ | ⟨r, x⟩ <;> rcases z with _ | ⟨_ | _⟩ | ⟨t, z⟩ <;>
    rcases y with _ | ⟨_ | _⟩ | ⟨s, y⟩ <;> simp_all [le]
  omega

/-- For numbers the strict comparison is the negation of the other one. -/
theorem le_iff_lt_eq_false (hx : x ≠ nan) (hy : y ≠ nan) :
    x.le y = true ↔ y.lt x = false := by
  have htotal := le_total hx hy
  cases hxy : x.le y <;> cases hyx : y.le x <;> simp_all [lt]

end LeagueStandings.Binary64
