import LeagueStandings.Proofs.Standings.Selection
import LeagueStandings.Proofs.Table.NamedColumns

/-!
# No column is lost in renaming

Renaming may drop columns, since a column makes room for another one that is given its name. Fresh
renames have no need of that: each listed column keeps its place and its cells under the new name,
and all others stay as they are (`IsRenamed`). A normalizer renames the columns that it has
selected, and there its list of renames is always fresh, whatever the headers of the table were.
-/

namespace LeagueStandings.Table

/-- The second table is the first one with the listed columns renamed all at once, each in its
place. -/
structure IsRenamed (renames : List (String × String)) (t after : Table) : Prop where
  name : after.name = t.name
  /-- No cell is changed, moved or lost. -/
  rows : after.rows = t.rows
  /-- No column is lost. -/
  length : after.headers.length = t.headers.length
  /-- No column is hidden by another one of its name. -/
  nodup : after.headers.Nodup
  listed : ∀ (i : Nat) (source target : String), t.headers[i]? = some source →
    (source, target) ∈ renames → after.headers[i]? = some target
  others : ∀ (i : Nat) (header : String), t.headers[i]? = some header →
    header ∉ renames.map Prod.fst → after.headers[i]? = some header

variable {t : Table} {renames : List (String × String)}

theorem isRenamed_of_fresh (hn : t.headers.Nodup) (h : FreshRenames t.headers renames) :
    IsRenamed renames t (t.renameColumns renames) := by
  have hnodup := (tracks_renameColumns hn renames).nodup
  rw [renameColumns_of_fresh hn h] at hnodup ⊢
  refine ⟨rfl, rfl, List.length_map _, hnodup, fun i source target hi hmem ↦ ?_,
    fun i header hi hnot ↦ ?_⟩
  · rw [List.getElem?_map, hi, Option.map_some, renamed_of_mem h.nodup_sources hmem]
  · rw [List.getElem?_map, hi, Option.map_some, renamed_of_not_source hnot]

theorem freshRenames_of_select {n : Normalizer} {selected : Table}
    (h : n.select t = .ok selected) :
    selected.headers.Nodup ∧ FreshRenames selected.headers standingsRenames := by
  have hheaders : selected.headers = t.available standingsColumns := by
    rw [Normalizer.select] at h
    split at h
    · cases h
    · obtain rfl := Except.ok.inj h
      exact available_available standingsColumns
  rw [hheaders]
  exact ⟨nodup_standingsColumns.sublist List.filter_sublist, freshRenames_selected⟩

/-- **Renaming one after the other is renaming at once.** Take a table without repeated headers,
whatever the lengths of its rows, and renames with different sources and different targets of which
no target is a header or a source. Renaming by the list leaves the rows alone and replaces each
listed header in its place, and so does renaming by any permutation of the list. Whatever table a
normalizer selects its columns from, its renames are such a list. -/
theorem renameColumns_atOnce (hn : t.headers.Nodup) (h : FreshRenames t.headers renames) :
    IsRenamed renames t (t.renameColumns renames) ∧
    (∀ others, renames.Perm others → t.renameColumns others = t.renameColumns renames) ∧
    ∀ (n : Normalizer) (identified selected : Table), n.select identified = .ok selected →
      selected.headers.Nodup ∧ FreshRenames selected.headers standingsRenames ∧
        IsRenamed standingsRenames selected (selected.renameColumns standingsRenames) := by
  refine ⟨isRenamed_of_fresh hn h, fun others hperm ↦ renameColumns_perm hn h hperm, ?_⟩
  intro n identified selected hselect
  obtain ⟨hnodup, hfresh⟩ := freshRenames_of_select hselect
  exact ⟨hnodup, hfresh, isRenamed_of_fresh hnodup hfresh⟩

/-- Renames of which one has no source in the table. -/
def raggedRenames : List (String × String) :=
  [("TeamCity", "team_city"), ("WINS", "wins"), ("TEAM_ID", "TeamNumber")]

/-- They can be made forwards and backwards on a table with rows that are too short and too long. -/
theorem renameColumns_atOnce_ragged :
    raggedTable.headers.Nodup ∧ FreshRenames raggedTable.headers raggedRenames ∧
      raggedTable.renameColumns raggedRenames.reverse = raggedTable.renameColumns raggedRenames ∧
      (raggedTable.renameColumns raggedRenames).headers = ["TeamNumber", "TeamID", "team_city"] ∧
      (raggedTable.renameColumns raggedRenames).rows = raggedTable.rows := by
  have hn : raggedTable.headers.Nodup := by decide
  have hfresh : FreshRenames raggedTable.headers raggedRenames :=
    ⟨by decide, by decide, by decide, by decide⟩
  obtain ⟨hrenamed, hperm, -⟩ := renameColumns_atOnce hn hfresh
  exact ⟨hn, hfresh, hperm _ (List.reverse_perm _).symm, by decide, hrenamed.rows⟩

end LeagueStandings.Table
