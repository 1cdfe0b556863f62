import LeagueStandings.Proofs.Lookup
import LeagueStandings.Proofs.Table.Columns

/-!
# Renaming all columns at once

Columns are renamed one after the other, and in general a later rename sees what an earlier one has
done: it may find its source relabelled, or drop a column to make room for its target. Where every
target is a new name nothing of the kind can happen, and the sequence is a simultaneous
substitution on the headers (`renameColumns_of_fresh`). The order of the renames does not matter
then (`renameColumns_perm`).
-/

namespace LeagueStandings.Table

/-- The name that a list of renames gives to a column. -/
def renamed (renames : List (String × String)) (column : String) : String :=
  (renames.lookup column).getD column

theorem renamed_cons (rename : String × String) (renames : List (String × String))
    (column : String) :
    renamed (rename :: renames) column =
      if column = rename.1 then rename.2 else renamed renames column := by
  rw [renamed, List.lookup_cons]
  by_cases h : column = rename.1
  · rw [if_pos h, beq_iff_eq.mpr h]
    rfl
  · rw [if_neg h, beq_eq_false_iff_ne.mpr h]
    rfl

theorem renamed_of_not_source {renames : List (String × String)} {column : String}
    (h : column ∉ renames.map Prod.fst) : renamed renames column = column := by
  induction renames with
  | nil => rfl
  | cons rename renames ih =>
    rw [List.map_cons, List.mem_cons, not_or] at h
    rw [renamed_cons, if_neg h.1, ih h.2]

theorem renamed_of_mem {renames : List (String × String)} (hn : (renames.map Prod.fst).Nodup)
    {source target : String} (h : (source, target) ∈ renames) :
    renamed renames source = target := by
  rw [renamed, (lookup_eq_some_iff_mem hn).mpr h, Option.getD_some]

/-- Renames that cannot get in each other's way on the given headers: the names they bring in are
new to the headers and to each other. -/
structure FreshRenames (headers : List String) (renames : List (String × String)) : Prop where
  nodup_sources : (renames.map Prod.fst).Nodup
  nodup_targets : (renames.map Prod.snd).Nodup
  target_not_header : ∀ target ∈ renames.map Prod.snd, target ∉ headers
  target_not_source : ∀ target ∈ renames.map Prod.snd, target ∉ renames.map Prod.fst

theorem FreshRenames.perm {headers : List String} {renames others : List (String × String)}
    (h : FreshRenames headers renames) (hperm : renames.Perm others) :
    FreshRenames headers others := by
  have hsources := hperm.map Prod.fst
  have htargets := hperm.map Prod.snd
  refine ⟨hsources.nodup_iff.mp h.nodup_sources, htargets.nodup_iff.mp h.nodup_targets,
    fun target ht ↦ h.target_not_header target (htargets.mem_iff.mpr ht), fun target ht hs ↦ ?_⟩
  exact h.target_not_source target (htargets.mem_iff.mpr ht) (hsources.mem_iff.mpr hs)

variable {t : Table}

private theorem replace_eq_map {headers : List String} (hn : headers.Nodup)
    (source target : String) :
    headers.replace source target =
      headers.map fun header ↦ if header = source then target else header := by
  induction headers with
  | nil => rfl
  | cons header headers ih =>
    rw [List.nodup_cons] at hn
    by_cases hs : source = header
    · subst hs
      rw [List.replace_cons_self, List.map_cons, if_pos rfl]
      -- The name does not occur a second time, so the rest is left alone.
      have hrest : ∀ other ∈ headers, (if other = source then target else other) = other := by
        intro other ho
        rw [if_neg]
        rintro rfl
        exact hn.1 ho
      rw [List.map_congr_left hrest, List.map_id']
    · rw [List.replace_cons, beq_eq_false_iff_ne.mpr hs, List.map_cons, if_neg (Ne.symm hs),
        ih hn.2]

theorem renameColumn_of_fresh (hn : t.headers.Nodup) {source target : String}
    (h : target ∉ t.headers) :
    t.renameColumn source target =
      { t with headers := t.headers.map fun header ↦
        if header = source then target else header } := by
  rw [← replace_eq_map hn]
  by_cases hs : source ∈ t.headers
  · have hne : source ≠ target := fun he ↦ h (he ▸ hs)
    rw [renameColumn, if_pos (hasColumn_iff.mpr hs), if_neg hne, withoutColumn_of_not_mem h,
      ← headers_relabel, relabel]
    cases t.columnIndex? source <;> rfl
  · rw [renameColumn_of_not_mem hs, List.replace_of_not_mem hs]

theorem nodup_map_rename {headers : List String} (hn : headers.Nodup)
    {source target : String} (h : target ∉ headers) :
    (headers.map fun header ↦ if header = source then target else header).Nodup := by
  refine List.Nodup.map_on (fun a ha b hb hab ↦ ?_) hn
  split at hab <;> split at hab
  · next h₁ h₂ => exact h₁.trans h₂.symm
  · exact absurd (hab ▸ hb) h
  · exact absurd (hab ▸ ha) h
  · exact hab

/-- **Simultaneous renaming.** Where all targets are new, renaming one after the other is one
substitution on the headers, and the rows stay as they are. -/
theorem renameColumns_of_fresh {renames : List (String × String)} (hn : t.headers.Nodup)
    (h : FreshRenames t.headers renames) :
    t.renameColumns renames = { t with headers := t.headers.map (renamed renames) } := by
  induction renames generalizing t with
  | nil =>
    have hid : t.headers.map (renamed []) = t.headers := List.map_id' _
    rw [hid]
    rfl
  | cons rename renames ih =>
    obtain ⟨source, target⟩ := rename
    have hfresh : target ∉ t.headers := h.target_not_header target List.mem_cons_self
    have hsources := List.nodup_cons.mp h.nodup_sources
    have htargets := List.nodup_cons.mp h.nodup_targets
    -- After one rename the others are still fresh: the new header is none of their targets.
    have hrest : FreshRenames
        (t.headers.map fun header ↦ if header = source then target else header) renames := by
      refine ⟨hsources.2, htargets.2, fun other ho hmem ↦ ?_, fun other ho hmem ↦ ?_⟩
      · obtain ⟨header, hheader, rfl⟩ := List.mem_map.mp hmem
        split at ho
        · exact htargets.1 ho
        · exact h.target_not_header _ (List.mem_cons_of_mem _ ho) hheader
      · exact h.target_not_source other (List.mem_cons_of_mem _ ho) (List.mem_cons_of_mem _ hmem)
    -- And no later rename takes the new header away.
    have hstep : renamed renames target = target :=
      renamed_of_not_source fun hmem ↦
        h.target_not_source target List.mem_cons_self (List.mem_cons_of_mem _ hmem)
    have hmap : (t.headers.map fun header ↦ if header = source then target else header).map
        (renamed renames) = t.headers.map (renamed ((source, target) :: renames)) := by
      rw [List.map_map]
      refine List.map_congr_left fun header _ ↦ ?_
      rw [renamed_cons, Function.comp_apply]
      split
      · exact hstep
      · rfl
    rw [renameColumns, List.foldl_cons, renameColumn_of_fresh hn hfresh, ← renameColumns,
      ih (nodup_map_rename hn hfresh) hrest, hmap]

theorem renameColumns_perm {renames others : List (String × String)} (hn : t.headers.Nodup)
    (h : FreshRenames t.headers renames) (hperm : renames.Perm others) :
    t.renameColumns others = t.renameColumns renames := by
  have hsame : renamed others = renamed renames := by
    funext column
    rw [renamed, renamed, lookup_eq_of_perm hperm h.nodup_sources]
  rw [renameColumns_of_fresh hn (h.perm hperm), renameColumns_of_fresh hn h, hsame]

end LeagueStandings.Table
