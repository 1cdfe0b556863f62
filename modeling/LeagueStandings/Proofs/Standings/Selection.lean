import LeagueStandings.Proofs.Standings.Identifier
import LeagueStandings.Proofs.Table.Renaming

/-!
# The selected columns

Between the identifier and the range of points a table goes through a projection and ten renames.
Together they only change under which name a cell is found: what the selected table shows under a
name is a cell that the input table shows under the name's source (`lookup?_selection`). The rows
keep their number and their order.

No rename of the list can meet another, because the names that are brought in are none of the
wanted columns (`freshRenames_selected`).
-/

namespace LeagueStandings.Table

/-! ## Wanted columns and their new names -/

theorem nodup_standingsColumns : standingsColumns.Nodup := by decide

theorem teamIdAlias_not_mem_standingsColumns : teamIdAlias ∉ standingsColumns := by decide

private theorem renamed_injOn : ∀ first ∈ standingsColumns, ∀ second ∈ standingsColumns,
    renamed standingsRenames first = renamed standingsRenames second → first = second := by
  decide

/-- The wanted column that a column of the rows is made from. -/
def wantedColumn? (column : String) : Option String :=
  standingsColumns.find? fun wanted ↦ renamed standingsRenames wanted == column

theorem renamed_eq_iff {wanted column : String} (h : wanted ∈ standingsColumns) :
    renamed standingsRenames wanted = column ↔ wantedColumn? column = some wanted := by
  constructor
  · intro hw
    cases hf : wantedColumn? column with
    | none => exact absurd (beq_iff_eq.mpr hw) (List.find?_eq_none.mp hf wanted h)
    | some other =>
      have ho : renamed standingsRenames other = column := eq_of_beq (List.find?_some hf :)
      rw [renamed_injOn other (List.mem_of_find?_eq_some hf) wanted h (ho.trans hw.symm)]
  · intro hf
    exact eq_of_beq (List.find?_some hf :)

theorem mem_standingsColumns_of_wantedColumn? {wanted column : String}
    (h : wantedColumn? column = some wanted) : wanted ∈ standingsColumns :=
  List.mem_of_find?_eq_some h

/-! ## The selected table -/

/-- The table of the wanted columns under their new names, the identifier under one of them. -/
def selection (t : Table) : Table :=
  (t.identified.project (t.identified.available standingsColumns)).renameColumns standingsRenames

/-- A row of the selected table. -/
def selectionRow (t : Table) (row : List Json) : List Json :=
  t.identified.projectRow (t.identified.available standingsColumns) (t.identifiedRow row)

/-- The cell of a row that a column of the rows is read from, if there is one. -/
def sourceCell? (t : Table) (row : List Json) (column : String) : Option Json :=
  (wantedColumn? column).bind fun wanted ↦
    if wanted = teamIdColumn then t.identifierCell? row else t.lookup? row wanted

variable {t : Table}

theorem available_available (wanted : List String) :
    t.available (t.available wanted) = t.available wanted := by
  rw [available, available, List.filter_filter]
  simp only [Bool.and_self]

theorem freshRenames_selected :
    FreshRenames (t.available standingsColumns) standingsRenames := by
  have hnew : ∀ target ∈ standingsRenames.map Prod.snd, target ∉ standingsColumns := by decide
  exact ⟨by decide, by decide, fun target ht hmem ↦ hnew target ht (mem_available.mp hmem).1,
    by decide⟩

private theorem nodup_available : (t.available standingsColumns).Nodup :=
  nodup_standingsColumns.sublist List.filter_sublist

theorem selection_eq (t : Table) :
    t.selection =
      { t.identified.project (t.identified.available standingsColumns) with
        headers := (t.identified.available standingsColumns).map (renamed standingsRenames) } := by
  have hheaders : (t.identified.project (t.identified.available standingsColumns)).headers =
      t.identified.available standingsColumns := available_available standingsColumns
  have hnodup : (t.identified.project (t.identified.available standingsColumns)).headers.Nodup := by
    rw [hheaders]
    exact nodup_available
  have hfresh : FreshRenames
      (t.identified.project (t.identified.available standingsColumns)).headers
      standingsRenames := by
    rw [hheaders]
    exact freshRenames_selected
  rw [selection, renameColumns_of_fresh hnodup hfresh, hheaders]

theorem rows_selection (t : Table) : t.selection.rows = t.rows.map t.selectionRow := by
  rw [selection_eq]
  change (t.identified.project _).rows = _
  rw [rows_project, rows_identified, List.map_map]
  rfl

private theorem lookup?_project_available {column : String} (h : column ∈ standingsColumns)
    (row : List Json) :
    (t.project (t.available standingsColumns)).lookup?
        (t.projectRow (t.available standingsColumns) row) column = t.lookup? row column := by
  rw [lookup?_project]
  split
  · rfl
  · next hc =>
    rw [mem_available, not_and] at hc
    exact (lookup?_eq_none_iff.mpr (hc h)).symm

/-- **Where a selected cell comes from.** Under each name the selected table shows the source
cell. -/
theorem lookup?_selection (t : Table) (row : List Json) (column : String) :
    t.selection.lookup? (t.selectionRow row) column = t.sourceCell? row column := by
  have hmem : ∀ header ∈ t.identified.available standingsColumns, header ∈ standingsColumns :=
    fun header hh ↦ (mem_available.mp hh).1
  rw [lookup?_eq_cellWhere?, selection_eq, cellWhere?_map, sourceCell?]
  cases hw : wantedColumn? column with
  | none =>
    refine cellWhere?_eq_none_iff.mpr fun header hh ↦ beq_eq_false_iff_ne.mpr fun he ↦ ?_
    rw [renamed_eq_iff (hmem header hh), hw] at he
    cases he
  | some wanted =>
    have hwanted := mem_standingsColumns_of_wantedColumn? hw
    have hp : ∀ header ∈ t.identified.available standingsColumns,
        ((· == column) ∘ renamed standingsRenames) header = (header == wanted) := by
      intro header hh
      rw [Function.comp_apply, Bool.eq_iff_iff, beq_iff_eq, beq_iff_eq,
        renamed_eq_iff (hmem header hh), hw, Option.some.injEq, eq_comm]
    have hproject := lookup?_project_available (t := t.identified) hwanted (t.identifiedRow row)
    rw [lookup?_eq_cellWhere?, headers_project, available_available] at hproject
    rw [cellWhere?_congr hp, selectionRow, hproject, Option.bind_some]
    split
    · next he => rw [he, lookup?_identified]
    · next he =>
      refine lookup?_identified_of_ne (fun ha ↦ ?_) he row
      exact teamIdAlias_not_mem_standingsColumns (ha ▸ hwanted)

theorem sourceCell?_pointsColumn (t : Table) (row : List Json) :
    t.sourceCell? row pointsColumn = t.lookup? row "PointsPG" := by
  rw [sourceCell?, show wantedColumn? pointsColumn = some "PointsPG" by decide]
  rfl

theorem sourceCell?_teamIdColumn (t : Table) (row : List Json) :
    t.sourceCell? row teamIdColumn = t.identifierCell? row := by
  rw [sourceCell?, show wantedColumn? teamIdColumn = some teamIdColumn by decide,
    Option.bind_some, if_pos rfl]

/-- The wanted columns besides the identifier that the table lacks. -/
def absentColumns (t : Table) : List String := t.missing standingsColumns.tail

/-- A selection misses what the table lacks; the identifier is there under either spelling. -/
theorem missing_identified (h : t.HasIdentifier) :
    t.identified.missing standingsColumns = t.absentColumns := by
  have hid : t.identified.hasColumn teamIdColumn = true := by
    have hcell : t.identifierCell? [] ≠ none := identifierCell?_ne_none_iff.mpr h
    rw [← lookup?_identified, ne_eq, lookup?_eq_none_iff, Classical.not_not] at hcell
    exact hasColumn_iff.mpr hcell
  have hother : ∀ column ∈ standingsColumns.tail,
      (!t.identified.hasColumn column) = (!t.hasColumn column) := by
    intro column hc
    have hne : column ≠ teamIdAlias ∧ column ≠ teamIdColumn :=
      (by decide : ∀ column ∈ standingsColumns.tail,
        column ≠ teamIdAlias ∧ column ≠ teamIdColumn) column hc
    have hlookup := lookup?_identified_of_ne (t := t) hne.1 hne.2 []
    rw [Bool.eq_iff_iff, Bool.not_eq_true', Bool.not_eq_true', Bool.eq_false_iff,
      Bool.eq_false_iff, ne_eq, ne_eq, hasColumn_iff, hasColumn_iff, ← lookup?_eq_none_iff,
      ← lookup?_eq_none_iff, hlookup]
  rw [missing, absentColumns, missing]
  change List.filter _ (teamIdColumn :: standingsColumns.tail) = _
  rw [List.filter_cons_of_neg (by simp [hid]), List.filter_congr hother]

end LeagueStandings.Table
