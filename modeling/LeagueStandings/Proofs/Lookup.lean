import Mathlib.Data.List.Nodup

/-!
# Fields without repeated keys

Looking up a key gives the first field that has it. Where no key is repeated that is the only one,
so a lookup is membership (`lookup_eq_some_iff_mem`) and does not depend on the order of the fields
(`lookup_eq_of_perm`).
-/

namespace LeagueStandings

variable {α : Type} {fields others : List (String × α)} {key : String} {value : α}

theorem lookup_eq_none_iff_not_mem : fields.lookup key = none ↔ key ∉ fields.map Prod.fst := by
  induction fields with
  | nil => simp
  | cons field fields ih =>
    rw [List.lookup_cons, List.map_cons, List.mem_cons, not_or, ← ih]
    by_cases h : key = field.1
    · simp [h]
    · simp [h, beq_eq_false_iff_ne.mpr h]

theorem lookup_eq_some_iff_mem (hn : (fields.map Prod.fst).Nodup) :
    fields.lookup key = some value ↔ (key, value) ∈ fields := by
  induction fields with
  | nil => simp
  | cons field fields ih =>
    obtain ⟨first, firstValue⟩ := field
    rw [List.map_cons, List.nodup_cons] at hn
    rw [List.lookup_cons, List.mem_cons, Prod.mk.injEq]
    by_cases h : key = first
    · subst h
      have hrest : (key, value) ∉ fields := fun hmem ↦ hn.1 (List.mem_map.mpr ⟨_, hmem, rfl⟩)
      simp [hrest, eq_comm]
    · simp [h, beq_eq_false_iff_ne.mpr h, ih hn.2]

theorem lookup_eq_of_perm (h : fields.Perm others) (hnodup : (fields.map Prod.fst).Nodup)
    (key : String) : fields.lookup key = others.lookup key := by
  have hnodup' : (others.map Prod.fst).Nodup := (h.map Prod.fst).nodup_iff.mp hnodup
  refine Option.ext fun value ↦ ?_
  rw [lookup_eq_some_iff_mem hnodup, lookup_eq_some_iff_mem hnodup', h.mem_iff]

end LeagueStandings
