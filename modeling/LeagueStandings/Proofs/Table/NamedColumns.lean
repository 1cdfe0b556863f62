import LeagueStandings.Proofs.Table.Renaming
import Mathlib.Data.List.InsertIdx

/-!
# A table as a list of named columns

A table keeps its headers and its rows apart, and nothing but positions tells which cell belongs to
which header. One who uses a table thinks of columns: each has a name and one cell for each row, and
a table is changed by renaming, dropping and choosing columns. `Table.columns` is this view. A short
row shows nulls in it, and the cells of a long row beyond the headers are not seen.

## Changes

`NamedColumns.change` says what a change does to columns, and it does not look at what they hold. So
it can be run on the columns of a table, and as well on columns that hold nothing but their own
names from before the changes (`Table.origins`). The second run tells which column of the first
table a name stands for in the end.

## The proof

`Tracks` holds between two tables if the second one is changed from the first as its columns are. It
composes, so one lemma for each kind of change gives all sequences of them
(`columns_changeAll`). Names that do not repeat are carried along: without them a name would not
determine its column, and positions would show through.
-/

namespace LeagueStandings

/-- Columns in order, each under its name. -/
abbrev NamedColumns (α : Type) := List (String × α)

/-- A change to the columns of a table. -/
inductive ColumnChange
  | rename (source target : String)
  | renameAll (renames : List (String × String))
  | drop (index : Nat)
  | project (wanted : List String) (nodup : wanted.Nodup)

namespace NamedColumns

variable {α β : Type}

/-- The names of the columns. -/
def names (columns : NamedColumns α) : List String := columns.map Prod.fst

/-- The columns with another name on those called `source`. -/
def relabel (source target : String) (columns : NamedColumns α) : NamedColumns α :=
  columns.map fun column ↦ (if column.1 = source then target else column.1, column.2)

/-- The columns with the one called `source` called `target`, and without any other one of that
name. Without a column called `source` nothing changes. -/
def rename (source target : String) (columns : NamedColumns α) : NamedColumns α :=
  if source ∈ columns.names then
    relabel source target
      (if source = target then columns else columns.filter (·.1 != target))
  else columns

/-- The wanted columns in the wanted order, as far as they are there. -/
def project (wanted : List String) (columns : NamedColumns α) : NamedColumns α :=
  wanted.filterMap fun name ↦ columns.find? (·.1 == name)

/-- The columns after a change. -/
def change (columns : NamedColumns α) : ColumnChange → NamedColumns α
  | .rename source target => columns.rename source target
  | .renameAll renames => renames.foldl (fun columns r ↦ columns.rename r.1 r.2) columns
  | .drop index => columns.eraseIdx index
  | .project wanted _ => columns.project wanted

/-- The columns after changes, one after the other. -/
def changeAll (columns : NamedColumns α) (changes : List ColumnChange) : NamedColumns α :=
  changes.foldl change columns

/-! ## What the columns hold

No change looks at it, and no change invents any of it. -/

/-- The columns with other things in them. -/
def mapContents (f : α → β) (columns : NamedColumns α) : NamedColumns β :=
  columns.map fun column ↦ (column.1, f column.2)

@[simp] theorem names_mapContents (f : α → β) (columns : NamedColumns α) :
    (columns.mapContents f).names = columns.names := by
  simp [names, mapContents]

theorem rename_mapContents (f : α → β) (columns : NamedColumns α) (source target : String) :
    (columns.mapContents f).rename source target =
      (columns.rename source target).mapContents f := by
  have hrelabel : ∀ columns : NamedColumns α, relabel source target (columns.mapContents f) =
      (relabel source target columns).mapContents f := by
    intro columns
    simp [relabel, mapContents]
  have hfilter : (columns.mapContents f).filter (·.1 != target) =
      mapContents f (columns.filter (·.1 != target)) := List.filter_map
  rw [rename, rename, names_mapContents, hfilter]
  split
  · split <;> exact hrelabel _
  · rfl

theorem project_mapContents (f : α → β) (columns : NamedColumns α) (wanted : List String) :
    (columns.mapContents f).project wanted = (columns.project wanted).mapContents f := by
  rw [project, project, mapContents, mapContents, List.map_filterMap]
  refine List.filterMap_congr fun name _ ↦ ?_
  rw [List.find?_map]
  rfl

theorem change_mapContents (f : α → β) (columns : NamedColumns α) (c : ColumnChange) :
    (columns.mapContents f).change c = (columns.change c).mapContents f := by
  cases c with
  | rename source target => exact rename_mapContents f columns source target
  | renameAll renames =>
    rw [change, change]
    induction renames generalizing columns with
    | nil => rfl
    | cons r renames ih => rw [List.foldl_cons, List.foldl_cons, rename_mapContents, ih]
  | drop index => exact List.eraseIdx_map _ _ _
  | project wanted nodup => exact project_mapContents f columns wanted

theorem changeAll_mapContents (f : α → β) (columns : NamedColumns α)
    (changes : List ColumnChange) :
    (columns.mapContents f).changeAll changes = (columns.changeAll changes).mapContents f := by
  induction changes generalizing columns with
  | nil => rfl
  | cons c changes ih =>
    rw [changeAll, changeAll, List.foldl_cons, List.foldl_cons, change_mapContents]
    exact ih (columns.change c)

/-- Each of the first columns holds something that one of the second columns holds. -/
def HeldBy (columns others : NamedColumns α) : Prop :=
  ∀ column ∈ columns, ∃ other ∈ others, other.2 = column.2

theorem HeldBy.refl (columns : NamedColumns α) : columns.HeldBy columns :=
  fun column hcolumn ↦ ⟨column, hcolumn, rfl⟩

theorem HeldBy.trans {first second third : NamedColumns α} (h : first.HeldBy second)
    (hnext : second.HeldBy third) : first.HeldBy third := by
  intro column hcolumn
  obtain ⟨between, hbetween, heq⟩ := h column hcolumn
  obtain ⟨other, hother, heq'⟩ := hnext between hbetween
  exact ⟨other, hother, heq'.trans heq⟩

theorem rename_heldBy (columns : NamedColumns α) (source target : String) :
    (columns.rename source target).HeldBy columns := by
  intro column hcolumn
  rw [rename] at hcolumn
  split at hcolumn
  · obtain ⟨other, hother, rfl⟩ := List.mem_map.mp hcolumn
    refine ⟨other, ?_, rfl⟩
    split at hother
    · exact hother
    · exact List.mem_of_mem_filter hother
  · exact ⟨column, hcolumn, rfl⟩

theorem change_heldBy (columns : NamedColumns α) (c : ColumnChange) :
    (columns.change c).HeldBy columns := by
  cases c with
  | rename source target => exact rename_heldBy columns source target
  | renameAll renames =>
    rw [change]
    induction renames generalizing columns with
    | nil => exact HeldBy.refl columns
    | cons r renames ih => exact (ih _).trans (rename_heldBy columns r.1 r.2)
  | drop index =>
    exact fun column hcolumn ↦ ⟨column, (List.eraseIdx_sublist _ _).subset hcolumn, rfl⟩
  | project wanted nodup =>
    intro column hcolumn
    obtain ⟨name, -, hfind⟩ := List.mem_filterMap.mp hcolumn
    exact ⟨column, List.mem_of_find?_eq_some hfind, rfl⟩

theorem changeAll_heldBy (columns : NamedColumns α) (changes : List ColumnChange) :
    (columns.changeAll changes).HeldBy columns := by
  induction changes generalizing columns with
  | nil => exact HeldBy.refl columns
  | cons c changes ih => exact (ih _).trans (change_heldBy columns c)

end NamedColumns

namespace Table

/-! ## The view -/

/-- The columns of the table: each name with one cell for each row. -/
def columns (t : Table) : NamedColumns (List Json) :=
  t.headers.mapIdx fun index name ↦ (name, t.rows.map fun row ↦ cellAt row index)

/-- The table after a change. -/
def change (t : Table) : ColumnChange → Table
  | .rename source target => t.renameColumn source target
  | .renameAll renames => t.renameColumns renames
  | .drop index => t.dropColumn index
  | .project wanted _ => t.project wanted

/-- The table after changes, one after the other. -/
def changeAll (t : Table) (changes : List ColumnChange) : Table := changes.foldl change t

/-- The columns after changes, each with the name that it had before them. -/
def origins (t : Table) (changes : List ColumnChange) : NamedColumns String :=
  NamedColumns.changeAll (t.headers.map fun name ↦ (name, name)) changes

/-- Every row has exactly one cell for each header. -/
def IsRectangular (t : Table) : Prop := ∀ row ∈ t.rows, row.length = t.headers.length

/-- The cells under a name. -/
def column (t : Table) (name : String) : List Json :=
  t.rows.map fun row ↦ (t.lookup? row name).getD .null

variable {t : Table} {name : String}

@[simp] theorem names_columns (t : Table) : t.columns.names = t.headers := by
  refine List.ext_getElem? fun i ↦ ?_
  simp [NamedColumns.names, columns, Function.comp_def]

theorem columnIndex?_of_getElem? (hn : t.headers.Nodup) {index : Nat}
    (h : t.headers[index]? = some name) : t.columnIndex? name = some index := by
  obtain ⟨hlt, heq⟩ := List.getElem?_eq_some_iff.mp h
  refine List.findIdx?_eq_some_iff_getElem.mpr ⟨hlt, beq_iff_eq.mpr heq, fun i hi hname ↦ ?_⟩
  have hsame := (beq_iff_eq.mp hname).trans heq.symm
  exact absurd (hn.getElem_inj_iff.mp hsame) (by omega)

theorem columns_eq (hn : t.headers.Nodup) :
    t.columns = t.headers.map fun name ↦ (name, t.column name) := by
  refine List.ext_getElem? fun i ↦ ?_
  rw [columns, List.getElem?_mapIdx, List.getElem?_map]
  cases hi : t.headers[i]? with
  | none => rfl
  | some name =>
    simp only [Option.map_some, column, lookup?, columnIndex?_of_getElem? hn hi, Option.getD_some]

theorem cell_eq_column {index : Nat} (h : t.columnIndex? name = some index) (row : Nat) :
    t.cell row index = (t.column name)[row]?.getD .null := by
  rw [cell, column, List.getElem?_map]
  cases t.rows[row]? with
  | none => rfl
  | some cells => simp [lookup?, h]

/-! ## Changes that are seen in the view -/

/-- The second table has the columns of the first one after an operation on columns, each of its
rows comes from one row, and it is as regular as the first. -/
structure Tracks (operation : NamedColumns (List Json) → NamedColumns (List Json))
    (t after : Table) : Prop where
  nodup : after.headers.Nodup
  rows : ∃ arrange : List Json → List Json, after.rows = t.rows.map arrange
  columns : after.columns = operation t.columns
  isRectangular : t.IsRectangular → after.IsRectangular

theorem Tracks.refl (hn : t.headers.Nodup) : Tracks id t t :=
  ⟨hn, ⟨id, (List.map_id _).symm⟩, rfl, id⟩

theorem Tracks.trans {first second : NamedColumns (List Json) → NamedColumns (List Json)}
    {between after : Table} (h : Tracks first t between) (hnext : Tracks second between after) :
    Tracks (second ∘ first) t after := by
  obtain ⟨arrange, hrows⟩ := h.rows
  obtain ⟨arrange', hrows'⟩ := hnext.rows
  refine ⟨hnext.nodup, ⟨arrange' ∘ arrange, ?_⟩, ?_, hnext.isRectangular ∘ h.isRectangular⟩
  · rw [hrows', hrows, List.map_map]
  · rw [hnext.columns, h.columns, Function.comp_apply]

theorem Tracks.congr {operation other : NamedColumns (List Json) → NamedColumns (List Json)}
    {after : Table} (h : Tracks operation t after) (heq : operation t.columns = other t.columns) :
    Tracks other t after :=
  { h with columns := h.columns.trans heq }

/-! ### Dropping -/

private theorem cellAt_eraseIdx (row : List Json) (index i : Nat) :
    cellAt (row.eraseIdx index) i = if i < index then cellAt row i else cellAt row (i + 1) := by
  rw [cellAt, List.getElem?_eraseIdx]
  split <;> rfl

/-- Cells behind the dropped column move along with their headers, in rows of any length. -/
theorem columns_dropColumn (t : Table) (index : Nat) :
    (t.dropColumn index).columns = t.columns.eraseIdx index := by
  rw [dropColumn]
  split
  · refine List.ext_getElem? fun i ↦ ?_
    simp only [columns, List.getElem?_mapIdx, List.getElem?_eraseIdx, List.map_map,
      Function.comp_def, cellAt_eraseIdx]
    split <;> rfl
  · next hlt =>
    have hlength : t.columns.length ≤ index := by
      rw [columns, List.length_mapIdx]
      exact Nat.not_lt.mp hlt
    rw [List.eraseIdx_of_length_le hlength]

theorem tracks_dropColumn (hn : t.headers.Nodup) (index : Nat) :
    Tracks (·.eraseIdx index) t (t.dropColumn index) := by
  have hcolumns := columns_dropColumn t index
  rw [dropColumn] at hcolumns ⊢
  split at hcolumns
  · next hlt =>
    rw [if_pos hlt]
    refine ⟨hn.eraseIdx index, ⟨(·.eraseIdx index), rfl⟩, hcolumns, fun hrect row hrow ↦ ?_⟩
    obtain ⟨original, horiginal, rfl⟩ := List.mem_map.mp hrow
    have hlength := hrect original horiginal
    rw [List.length_eraseIdx_of_lt (hlength ▸ hlt), List.length_eraseIdx_of_lt hlt, hlength]
  · next hlt =>
    rw [if_neg hlt]
    exact ⟨hn, ⟨id, (List.map_id _).symm⟩, hcolumns, id⟩

/-! ### Renaming -/

theorem column_withoutColumn {other : String} (h : other ≠ name) :
    (t.withoutColumn name).column other = t.column other := by
  simp only [column, rows_withoutColumn, List.map_map, Function.comp_def, lookup?_withoutColumn h]

theorem columns_withoutColumn (hn : t.headers.Nodup) (name : String) :
    (t.withoutColumn name).columns = t.columns.filter (·.1 != name) := by
  have hheaders : (t.withoutColumn name).headers = t.headers.filter (· != name) := by
    rw [headers_withoutColumn, hn.erase_eq_filter]
  have hnodup : (t.withoutColumn name).headers.Nodup := hheaders ▸ hn.filter _
  calc (t.withoutColumn name).columns
      = (t.headers.filter (· != name)).map
          fun other ↦ (other, (t.withoutColumn name).column other) := by
        rw [columns_eq hnodup, hheaders]
    _ = (t.headers.filter (· != name)).map fun other ↦ (other, t.column other) := by
        refine List.map_congr_left fun other hother ↦ ?_
        rw [column_withoutColumn (bne_iff_ne.mp (List.mem_filter.mp hother).2)]
    _ = t.columns.filter (·.1 != name) := by
        rw [columns_eq hn, List.filter_map]
        rfl

theorem tracks_withoutColumn (hn : t.headers.Nodup) (name : String) :
    Tracks (·.filter (·.1 != name)) t (t.withoutColumn name) := by
  refine ⟨?_, ⟨t.dropCell name, rows_withoutColumn t name⟩, columns_withoutColumn hn name, ?_⟩
  · rw [headers_withoutColumn]
    exact hn.erase name
  · cases hindex : t.columnIndex? name with
    | none =>
      rw [withoutColumn_of_not_mem (columnIndex?_eq_none_iff.mp hindex)]
      exact id
    | some index =>
      rw [withoutColumn, hindex]
      exact (tracks_dropColumn hn index).isRectangular

theorem tracks_renameColumn_of_fresh (hn : t.headers.Nodup) {source target : String}
    (h : target ∉ t.headers) :
    Tracks (NamedColumns.relabel source target) t (t.renameColumn source target) := by
  rw [renameColumn_of_fresh hn h]
  refine ⟨nodup_map_rename hn h, ⟨id, (List.map_id _).symm⟩, List.ext_getElem? fun i ↦ ?_, ?_⟩
  · simp [columns, NamedColumns.relabel, Function.comp_def]
  · intro hrect row hrow
    rw [hrect row hrow, List.length_map]

theorem renameColumn_self (t : Table) (name : String) : t.renameColumn name name = t := by
  rw [renameColumn]
  split
  · rw [if_pos rfl, relabel]
    cases hindex : t.columnIndex? name with
    | none => rfl
    | some index =>
      obtain ⟨hlt, hname⟩ := List.getElem?_eq_some_iff.mp (getElem?_of_columnIndex? hindex)
      have hset : t.headers.set index name = t.headers := by
        rw [← hname, List.set_getElem_self]
      dsimp only
      rw [hset]
  · rfl

/-- The column that has to make room is gone before the other one gets its name. -/
theorem renameColumn_eq_of_ne (hn : t.headers.Nodup) {source target : String}
    (h : source ∈ t.headers) (hne : source ≠ target) :
    t.renameColumn source target = (t.withoutColumn target).renameColumn source target := by
  have hsource : source ∈ (t.withoutColumn target).headers := by
    rw [headers_withoutColumn, List.mem_erase_of_ne hne]
    exact h
  have htarget : target ∉ (t.withoutColumn target).headers := by
    rw [headers_withoutColumn]
    exact hn.not_mem_erase
  rw [renameColumn, if_pos (hasColumn_iff.mpr h), if_neg hne, renameColumn,
    if_pos (hasColumn_iff.mpr hsource), if_neg hne, withoutColumn_of_not_mem htarget]

theorem tracks_renameColumn (hn : t.headers.Nodup) (source target : String) :
    Tracks (NamedColumns.rename source target) t (t.renameColumn source target) := by
  have hnames : source ∈ t.columns.names ↔ source ∈ t.headers := by rw [names_columns]
  by_cases h : source ∈ t.headers
  · by_cases hne : source = target
    · subst hne
      rw [renameColumn_self]
      have hself : NamedColumns.relabel source source t.columns = t.columns := by
        refine (List.map_congr_left fun column _ ↦ ?_).trans (List.map_id _)
        split
        · next hname => rw [← hname, id]
        · rfl
      refine (Tracks.refl hn).congr ?_
      rw [NamedColumns.rename, if_pos (hnames.mpr h), if_pos rfl, hself, id]
    · have hdropped := tracks_withoutColumn hn target
      have hfresh : target ∉ (t.withoutColumn target).headers := by
        rw [headers_withoutColumn]
        exact hn.not_mem_erase
      rw [renameColumn_eq_of_ne hn h hne]
      refine (hdropped.trans (tracks_renameColumn_of_fresh hdropped.nodup hfresh)).congr ?_
      rw [NamedColumns.rename, if_pos (hnames.mpr h), if_neg hne]
      rfl
  · rw [renameColumn_of_not_mem h]
    refine (Tracks.refl hn).congr ?_
    rw [NamedColumns.rename, if_neg (mt hnames.mp h)]
    rfl

theorem tracks_renameColumns (hn : t.headers.Nodup) (renames : List (String × String)) :
    Tracks (renames.foldl fun columns r ↦ columns.rename r.1 r.2) t (t.renameColumns renames) := by
  induction renames generalizing t with
  | nil => exact Tracks.refl hn
  | cons r renames ih =>
    have hfirst := tracks_renameColumn hn r.1 r.2
    exact hfirst.trans (ih hfirst.nodup)

/-! ### Projecting -/

theorem find?_columns (hn : t.headers.Nodup) (name : String) :
    t.columns.find? (·.1 == name) =
      if t.hasColumn name then some (name, t.column name) else none := by
  have hfind : t.columns.find? (·.1 == name) =
      (t.headers.find? (· == name)).map fun name ↦ (name, t.column name) := by
    rw [columns_eq hn, List.find?_map]
    rfl
  rw [hfind]
  split
  · next h =>
    have hname : t.headers.find? (· == name) = some name := by
      have hsome : (t.headers.find? (· == name)).isSome = true :=
        List.find?_isSome.mpr ⟨name, hasColumn_iff.mp h, beq_self_eq_true name⟩
      obtain ⟨other, hother⟩ := Option.isSome_iff_exists.mp hsome
      have hsame : (other == name) = true := List.find?_some (p := (· == name)) hother
      rw [hother, eq_of_beq hsame]
    rw [hname, Option.map_some]
  · next h =>
    have hname : t.headers.find? (· == name) = none := by
      refine List.find?_eq_none.mpr fun other hother heq ↦ h (hasColumn_iff.mpr ?_)
      rwa [← eq_of_beq heq]
    rw [hname, Option.map_none]

theorem column_project {wanted : List String} (h : name ∈ wanted) :
    (t.project wanted).column name = t.column name := by
  simp [column, rows_project, lookup?_project, h]

theorem length_projectRow (t : Table) (wanted : List String) (row : List Json) :
    (t.projectRow wanted row).length = (t.project wanted).headers.length := by
  have hsome : ∀ name, (t.columnIndex? name).isSome = t.hasColumn name := by
    intro name
    rw [Bool.eq_iff_iff, hasColumn_iff, Option.isSome_iff_ne_none, ne_eq,
      columnIndex?_eq_none_iff, not_not]
  rw [projectRow, List.length_map, List.length_filterMap_eq_countP, headers_project, available,
    ← List.countP_eq_length_filter]
  simp only [hsome]

theorem tracks_project (hn : t.headers.Nodup) {wanted : List String} (hwanted : wanted.Nodup) :
    Tracks (NamedColumns.project wanted) t (t.project wanted) := by
  have hnodup : (t.project wanted).headers.Nodup := hwanted.filter _
  refine ⟨hnodup, ⟨t.projectRow wanted, rows_project t wanted⟩, ?_, fun _ row hrow ↦ ?_⟩
  · calc (t.project wanted).columns
        = (wanted.filter t.hasColumn).map fun name ↦ (name, (t.project wanted).column name) :=
          columns_eq hnodup
      _ = (wanted.filter t.hasColumn).map fun name ↦ (name, t.column name) := by
          refine List.map_congr_left fun name hname ↦ ?_
          rw [column_project (List.mem_of_mem_filter hname)]
      _ = wanted.filterMap fun name ↦
            if t.hasColumn name then some (name, t.column name) else none := by
          rw [← List.filterMap_eq_map, List.filterMap_filter]
          rfl
      _ = NamedColumns.project wanted t.columns := by
          rw [NamedColumns.project]
          simp only [find?_columns hn]
  · obtain ⟨original, -, rfl⟩ := List.mem_map.mp hrow
    exact length_projectRow t wanted original

/-! ### Any changes -/

/-- **One change.** -/
theorem tracks_change (hn : t.headers.Nodup) (c : ColumnChange) :
    Tracks (·.change c) t (t.change c) := by
  cases c with
  | rename source target => exact tracks_renameColumn hn source target
  | renameAll renames => exact tracks_renameColumns hn renames
  | drop index => exact tracks_dropColumn hn index
  | project wanted nodup => exact tracks_project hn nodup

/-- **Any number of changes.** -/
theorem tracks_changeAll (hn : t.headers.Nodup) (changes : List ColumnChange) :
    Tracks (·.changeAll changes) t (t.changeAll changes) := by
  induction changes generalizing t with
  | nil => exact Tracks.refl hn
  | cons c changes ih =>
    have hfirst := tracks_change hn c
    exact hfirst.trans (ih hfirst.nodup)

/-! ## Where columns come from -/

theorem columns_eq_origins (hn : t.headers.Nodup) (changes : List ColumnChange) :
    (t.changeAll changes).columns = (t.origins changes).mapContents t.column := by
  have hstart : t.columns =
      NamedColumns.mapContents t.column (t.headers.map fun name ↦ (name, name)) := by
    simp [columns_eq hn, NamedColumns.mapContents]
  rw [(tracks_changeAll hn changes).columns, origins, ← NamedColumns.changeAll_mapContents,
    ← hstart]

theorem names_origins (hn : t.headers.Nodup) (changes : List ColumnChange) :
    (t.origins changes).names = (t.changeAll changes).headers := by
  rw [← names_columns, columns_eq_origins hn, NamedColumns.names_mapContents]

theorem mem_headers_of_origins {changes : List ColumnChange} {column : String × String}
    (h : column ∈ t.origins changes) : column.2 ∈ t.headers := by
  obtain ⟨other, hother, heq⟩ := NamedColumns.changeAll_heldBy _ _ column h
  obtain ⟨header, hheader, rfl⟩ := List.mem_map.mp hother
  exact heq ▸ hheader

/-- A name shows, in every row, the cell of the column that it was given to. -/
theorem cell_of_origins (hn : t.headers.Nodup) {changes : List ColumnChange}
    {column : String × String} (h : column ∈ t.origins changes) :
    ∃ index source, (t.changeAll changes).columnIndex? column.1 = some index ∧
      t.columnIndex? column.2 = some source ∧
      ∀ row, (t.changeAll changes).cell row index = t.cell row source := by
  have hname : column.1 ∈ (t.changeAll changes).headers := by
    rw [← names_origins hn]
    exact List.mem_map_of_mem h
  obtain ⟨index, hindex⟩ := Option.ne_none_iff_exists'.mp
    (mt columnIndex?_eq_none_iff.mp (not_not.mpr hname))
  obtain ⟨source, hsource⟩ := Option.ne_none_iff_exists'.mp
    (mt columnIndex?_eq_none_iff.mp (not_not.mpr (mem_headers_of_origins h)))
  refine ⟨index, source, hindex, hsource, fun row ↦ ?_⟩
  -- Both are found in the one column that the view has under the name.
  have hcolumn : (t.changeAll changes).column column.1 = t.column column.2 := by
    have hmem : (column.1, t.column column.2) ∈ (t.changeAll changes).columns := by
      rw [columns_eq_origins hn]
      exact List.mem_map_of_mem h
    rw [columns_eq (tracks_changeAll hn changes).nodup] at hmem
    obtain ⟨name, -, heq⟩ := List.mem_map.mp hmem
    obtain ⟨rfl, hcells⟩ := Prod.mk.inj heq
    exact hcells
  rw [cell_eq_column hindex, cell_eq_column hsource, hcolumn]

/-- **A table is its columns.** Take a table without repeated names, whatever the lengths of its
rows, and any sequence of changes. Then, after each of them,

* no name is repeated;
* the rows are as many as before and in the same order, each arranged on its own;
* the columns are the columns before the change with the change made to them;
* a name shows, in every row, the cell of the column of the first table that it was given to;
* if every row had exactly one cell for each header, every row still has. -/
theorem columns_changeAll (hn : t.headers.Nodup) (changes : List ColumnChange) :
    (t.changeAll changes).headers.Nodup ∧
    (∃ arrange : List Json → List Json, (t.changeAll changes).rows = t.rows.map arrange) ∧
    (t.changeAll changes).columns = t.columns.changeAll changes ∧
    (∀ done c rest, changes = done ++ c :: rest →
      (t.changeAll (done ++ [c])).columns = (t.changeAll done).columns.change c) ∧
    ((t.origins changes).names = (t.changeAll changes).headers ∧
      ∀ column ∈ t.origins changes, ∃ index source,
        (t.changeAll changes).columnIndex? column.1 = some index ∧
        t.columnIndex? column.2 = some source ∧
        ∀ row, (t.changeAll changes).cell row index = t.cell row source) ∧
    (t.IsRectangular → (t.changeAll changes).IsRectangular) := by
  have hall := tracks_changeAll hn changes
  refine ⟨hall.nodup, hall.rows, hall.columns, ?_, ?_, hall.isRectangular⟩
  · intro done c rest _
    have hdone := tracks_changeAll hn done
    rw [changeAll, List.foldl_append]
    exact (tracks_change hdone.nodup c).columns
  · exact ⟨names_origins hn changes, fun column hcolumn ↦ cell_of_origins hn hcolumn⟩

/-- A table with a row that is too short and one that is too long. -/
def raggedTable : Table where
  name := "Standings"
  headers := ["TEAM_ID", "TeamID", "TeamCity"]
  rows := [[.int64 1, .int64 2], [.int64 3, .int64 4, .str "Boston", .str "East"]]

/-- A rename that takes the place of a column, a drop beyond the headers, a rename and a projection
to columns of which one is not there. -/
def raggedChanges : List ColumnChange :=
  [.rename "TeamID" "TEAM_ID", .drop 2, .renameAll [("TeamCity", "team_city")],
    .project ["team_city", "WINS", "TEAM_ID"] (by decide)]

theorem columns_changeAll_ragged : raggedTable.headers.Nodup ∧
    (raggedTable.changeAll raggedChanges).headers.Nodup ∧
    (raggedTable.changeAll raggedChanges).columns =
      [("team_city", [.null, .str "Boston"]), ("TEAM_ID", [.int64 2, .int64 4])] ∧
    raggedTable.origins raggedChanges = [("team_city", "TeamCity"), ("TEAM_ID", "TeamID")] := by
  have hn : raggedTable.headers.Nodup := by decide
  obtain ⟨hnodup, -, hcolumns, -⟩ := columns_changeAll hn raggedChanges
  exact ⟨hn, hnodup, hcolumns.trans rfl, rfl⟩

end Table

end LeagueStandings
