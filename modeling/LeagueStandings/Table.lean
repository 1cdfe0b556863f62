import LeagueStandings.Json.Value

/-!
# Tables of named columns

A statistics reply holds tables: a name, headers, and rows of loosely typed cells. Nothing is
promised about the rows. A row may be shorter than the headers, and then its missing cells read as
null; it may be longer, and then the cells beyond the headers belong to no column. Headers may
repeat, and then a name stands for its first column.

## Reading and changing

A column is found by its name (`columnIndex?`) and a cell by its position (`cell`). Columns can be
dropped, renamed and projected; rows stay as many as they are (`length_rows_renameColumn`,
`length_rows_project`).
-/

namespace LeagueStandings

/-- A table as a statistics reply gives it. -/
structure Table where
  name : String
  headers : List String
  rows : List (List Json)

namespace Table

/-- The position of the first column with the given name. -/
def columnIndex? (t : Table) (column : String) : Option Nat :=
  t.headers.findIdx? (· == column)

/-- Some column has the given name. -/
def hasColumn (t : Table) (column : String) : Bool := t.headers.contains column

theorem hasColumn_iff {t : Table} {column : String} :
    t.hasColumn column = true ↔ column ∈ t.headers := by
  simp [hasColumn]

/-- The cell of a row at a position; short rows read as null. -/
def cellAt (row : List Json) (column : Nat) : Json := row[column]?.getD .null

/-- The cell at a position of the table; beyond the rows and beyond a row's end it is null. -/
def cell (t : Table) (row column : Nat) : Json := cellAt (t.rows[row]?.getD []) column

/-- The table without the column at a position, if there is one. -/
def dropColumn (t : Table) (index : Nat) : Table :=
  if index < t.headers.length then
    { t with headers := t.headers.eraseIdx index, rows := t.rows.map (·.eraseIdx index) }
  else t

/-- The table without the first column of the given name, if there is one. -/
def withoutColumn (t : Table) (column : String) : Table :=
  match t.columnIndex? column with
  | some index => t.dropColumn index
  | none => t

/-- The table in which the header of the first column called `source` reads `target`. -/
def relabel (t : Table) (source target : String) : Table :=
  match t.columnIndex? source with
  | some index => { t with headers := t.headers.set index target }
  | none => t

/-- The table in which the first column called `source` is called `target`. A column that is called
`target` already makes room for it; without a column called `source` nothing changes. -/
def renameColumn (t : Table) (source target : String) : Table :=
  if t.hasColumn source then
    (if source = target then t else t.withoutColumn target).relabel source target
  else t

/-- Renames columns one after the other. -/
def renameColumns (t : Table) (renames : List (String × String)) : Table :=
  renames.foldl (fun t rename ↦ t.renameColumn rename.1 rename.2) t

/-- The wanted columns that the table has, in the wanted order. -/
def available (t : Table) (wanted : List String) : List String := wanted.filter t.hasColumn

/-- The wanted columns that the table lacks, in the wanted order. -/
def missing (t : Table) (wanted : List String) : List String :=
  wanted.filter fun column ↦ !t.hasColumn column

/-- The table of the given columns in the given order; unknown names are skipped. -/
def project (t : Table) (columns : List String) : Table :=
  { t with
    headers := t.available columns
    rows := t.rows.map fun row ↦ (columns.filterMap t.columnIndex?).map (cellAt row) }

/-! ## Names and positions -/

variable {t : Table} {column : String}

theorem columnIndex?_eq_none_iff : t.columnIndex? column = none ↔ column ∉ t.headers := by
  simp only [columnIndex?, List.findIdx?_eq_none_iff, beq_eq_false_iff_ne]
  exact ⟨fun h hc ↦ h column hc rfl, fun h other ho he ↦ h (he ▸ ho)⟩

/-- The column at the position of a name has that name. -/
theorem getElem?_of_columnIndex? {index : Nat} (h : t.columnIndex? column = some index) :
    t.headers[index]? = some column := by
  rw [columnIndex?, List.findIdx?_eq_some_iff_getElem] at h
  obtain ⟨hlt, heq, -⟩ := h
  rw [List.getElem?_eq_getElem hlt, eq_of_beq heq]

@[simp] theorem mem_available {wanted : List String} :
    column ∈ t.available wanted ↔ column ∈ wanted ∧ column ∈ t.headers := by
  simp [available, hasColumn_iff]

@[simp] theorem mem_missing {wanted : List String} :
    column ∈ t.missing wanted ↔ column ∈ wanted ∧ column ∉ t.headers := by
  simp [missing, ← hasColumn_iff]

theorem missing_eq_nil_iff {wanted : List String} :
    t.missing wanted = [] ↔ ∀ column ∈ wanted, column ∈ t.headers := by
  simp [missing, hasColumn_iff]

theorem renameColumn_of_not_mem {source target : String} (h : source ∉ t.headers) :
    t.renameColumn source target = t := by
  rw [renameColumn, if_neg (mt hasColumn_iff.mp h)]

@[simp] theorem headers_project (t : Table) (columns : List String) :
    (t.project columns).headers = t.available columns := rfl

/-! ## The number of rows

No operation adds or removes a row. -/

@[simp] theorem length_rows_dropColumn (t : Table) (index : Nat) :
    (t.dropColumn index).rows.length = t.rows.length := by
  unfold dropColumn
  split <;> simp

@[simp] theorem length_rows_withoutColumn (t : Table) (column : String) :
    (t.withoutColumn column).rows.length = t.rows.length := by
  unfold withoutColumn
  split <;> simp

@[simp] theorem rows_relabel (t : Table) (source target : String) :
    (t.relabel source target).rows = t.rows := by
  unfold relabel
  split <;> rfl

@[simp] theorem length_rows_renameColumn (t : Table) (source target : String) :
    (t.renameColumn source target).rows.length = t.rows.length := by
  unfold renameColumn
  split
  · split <;> simp
  · rfl

@[simp] theorem length_rows_project (t : Table) (columns : List String) :
    (t.project columns).rows.length = t.rows.length := by
  simp [project]

end Table

end LeagueStandings
