import LeagueStandings.Table

/-!
# Cells by column name

Every operation on the columns of a table moves cells from one position to another. What a reader
of the table sees is not the position: it is the cell that a row shows under a name. `lookup?` is
that view, and each operation is described here by what it does to it.

The rows of a table after an operation are the rows before it, each put through one and the same
arrangement. The lemmas below therefore speak about a single row and its arranged form, and never
about a row number.

## Why a predicate and not a name

Dropping and relabelling are easier to follow when a column may be asked for by any predicate on
headers: `cellWhere?` unfolds along headers and row at once, so that its lemmas are inductions on
the headers without arithmetic on positions.
-/

namespace LeagueStandings.Table

/-! ## The first header with a property -/

/-- The row's cell under the first header with the property, if there is one; a short row reads as
null. -/
def cellWhere? (headers : List String) (p : String → Bool) (row : List Json) : Option Json :=
  (headers.findIdx? p).map (cellAt row)

private theorem cellAt_succ (row : List Json) (index : Nat) :
    cellAt row (index + 1) = cellAt row.tail index := by
  cases row <;> simp [cellAt]

theorem cellWhere?_cons (h : String) (headers : List String) (p : String → Bool)
    (row : List Json) :
    cellWhere? (h :: headers) p row =
      if p h then some (cellAt row 0) else cellWhere? headers p row.tail := by
  rw [cellWhere?, List.findIdx?_cons]
  split
  · rfl
  · rw [Option.map_map, cellWhere?]
    congr 1
    funext index
    exact cellAt_succ row index

theorem cellWhere?_congr {headers : List String} {p q : String → Bool}
    (h : ∀ header ∈ headers, p header = q header) (row : List Json) :
    cellWhere? headers p row = cellWhere? headers q row := by
  induction headers generalizing row with
  | nil => rfl
  | cons header headers ih =>
    rw [cellWhere?_cons, cellWhere?_cons, h header List.mem_cons_self,
      ih fun other ho ↦ h other (List.mem_cons_of_mem _ ho)]

theorem cellWhere?_map (f : String → String) (headers : List String) (p : String → Bool)
    (row : List Json) :
    cellWhere? (headers.map f) p row = cellWhere? headers (p ∘ f) row := by
  rw [cellWhere?, List.findIdx?_map, cellWhere?]

theorem cellWhere?_eq_none_iff {headers : List String} {p : String → Bool} {row : List Json} :
    cellWhere? headers p row = none ↔ ∀ header ∈ headers, p header = false := by
  rw [cellWhere?, Option.map_eq_none_iff, List.findIdx?_eq_none_iff]

private theorem cellAt_zero_eraseIdx_succ (row : List Json) (k : Nat) :
    cellAt (row.eraseIdx (k + 1)) 0 = cellAt row 0 := by
  cases row <;> rfl

private theorem tail_eraseIdx_succ (row : List Json) (k : Nat) :
    (row.eraseIdx (k + 1)).tail = row.tail.eraseIdx k := by
  cases row <;> rfl

theorem cellWhere?_eraseIdx {headers : List String} {k : Nat} {p : String → Bool}
    (h : ∀ header, headers[k]? = some header → p header = false) (row : List Json) :
    cellWhere? (headers.eraseIdx k) p (row.eraseIdx k) = cellWhere? headers p row := by
  induction headers generalizing k row with
  | nil => rfl
  | cons header headers ih =>
    cases k with
    | zero =>
      have hp : p header = false := h header rfl
      rw [List.eraseIdx_zero, List.eraseIdx_zero, List.tail_cons, cellWhere?_cons, hp]
      rfl
    | succ k =>
      rw [List.eraseIdx_cons_succ, cellWhere?_cons, cellWhere?_cons, cellAt_zero_eraseIdx_succ,
        tail_eraseIdx_succ, ih fun other ho ↦ h other (by rwa [List.getElem?_cons_succ])]

/-- Relabelling the first column of a name is seen under the new name only, where it stands for the
old one. -/
theorem cellWhere?_replace {source target : String} {p : String → Bool} (hp : p source = false)
    (headers : List String) (row : List Json) :
    cellWhere? (headers.replace source target) p row =
      cellWhere? headers (fun header ↦ p header || (header == source && p target)) row := by
  induction headers generalizing row with
  | nil => rfl
  | cons header headers ih =>
    by_cases hs : source = header
    · subst hs
      -- Here the relabelled column stands; it is asked for by its new name from now on.
      rw [List.replace_cons_self, cellWhere?_cons, cellWhere?_cons, hp, beq_self_eq_true,
        Bool.false_or, Bool.true_and]
      cases ht : p target with
      | true => rfl
      | false => simp only [Bool.and_false, Bool.or_false]
    · have hb : (source == header) = false := beq_eq_false_iff_ne.mpr hs
      rw [List.replace_cons, hb, cellWhere?_cons, cellWhere?_cons, ih,
        beq_eq_false_iff_ne.mpr (Ne.symm hs), Bool.false_and, Bool.or_false]

/-- Of two properties, the one that is met first along the headers decides. -/
theorem cellWhere?_or (headers : List String) (p q : String → Bool) (row : List Json) :
    cellWhere? headers (fun header ↦ p header || q header) row =
      if (headers.takeWhile fun header ↦ !q header).any p then cellWhere? headers p row
      else cellWhere? headers q row := by
  induction headers generalizing row with
  | nil => rfl
  | cons header headers ih =>
    rw [cellWhere?_cons, cellWhere?_cons, cellWhere?_cons, List.takeWhile_cons]
    cases hq : q header with
    | true => simp
    | false =>
      cases hp : p header with
      | true => simp [hp]
      | false => simp [hp, ih]

/-! ## Lookups -/

/-- The row's cell in the first column of the given name, if there is such a column; a short row
reads as null. -/
def lookup? (t : Table) (row : List Json) (column : String) : Option Json :=
  (t.columnIndex? column).map (cellAt row)

variable {t : Table} {row : List Json} {column : String}

theorem lookup?_eq_cellWhere? :
    t.lookup? row column = cellWhere? t.headers (· == column) row := rfl

theorem lookup?_eq_none_iff : t.lookup? row column = none ↔ column ∉ t.headers := by
  rw [lookup?, Option.map_eq_none_iff, columnIndex?_eq_none_iff]

theorem exists_lookup?_of_mem (h : column ∈ t.headers) : ∃ cell, t.lookup? row column = some cell :=
  Option.ne_none_iff_exists'.mp fun hn ↦ lookup?_eq_none_iff.mp hn h

/-! ## Dropping and renaming -/

private theorem set_findIdx?_eq_replace (source target : String) (headers : List String) :
    (match headers.findIdx? (· == source) with
      | some index => headers.set index target
      | none => headers) = headers.replace source target := by
  induction headers with
  | nil => rfl
  | cons header headers ih =>
    by_cases hs : source = header
    · subst hs
      rw [List.findIdx?_cons, beq_self_eq_true, if_pos rfl, List.replace_cons_self]
      rfl
    · rw [List.findIdx?_cons, beq_eq_false_iff_ne.mpr (Ne.symm hs), if_neg Bool.false_ne_true,
        List.replace_cons, beq_eq_false_iff_ne.mpr hs, ← ih]
      cases headers.findIdx? (· == source) <;> rfl

theorem headers_relabel (t : Table) (source target : String) :
    (t.relabel source target).headers = t.headers.replace source target := by
  rw [← set_findIdx?_eq_replace, relabel, columnIndex?]
  cases t.headers.findIdx? (· == source) <;> rfl

theorem lookup?_relabel {source target : String} (h : source ≠ column) :
    (t.relabel source target).lookup? row column =
      cellWhere? t.headers (fun header ↦ header == column || (header == source && target == column))
        row := by
  rw [lookup?_eq_cellWhere?, headers_relabel]
  exact cellWhere?_replace (p := (· == column)) (beq_eq_false_iff_ne.mpr h) t.headers row

theorem withoutColumn_of_not_mem (h : column ∉ t.headers) : t.withoutColumn column = t := by
  rw [withoutColumn, columnIndex?_eq_none_iff.mpr h]

theorem withoutColumn_eq {index : Nat} (h : t.columnIndex? column = some index) :
    t.withoutColumn column =
      { t with headers := t.headers.eraseIdx index, rows := t.rows.map (·.eraseIdx index) } := by
  have hlt : index < t.headers.length :=
    (List.getElem?_eq_some_iff.mp (getElem?_of_columnIndex? h)).1
  rw [withoutColumn, h]
  exact if_pos hlt

theorem headers_withoutColumn (t : Table) (column : String) :
    (t.withoutColumn column).headers = t.headers.erase column := by
  cases h : t.columnIndex? column with
  | none =>
    have hc := columnIndex?_eq_none_iff.mp h
    rw [withoutColumn_of_not_mem hc, List.erase_of_not_mem hc]
  | some index =>
    rw [withoutColumn_eq h, List.erase_eq_eraseIdx, List.idxOf?, show
      List.findIdx? (· == column) t.headers = some index from h]

/-- A row of the table once the first column of the given name has been dropped. -/
def dropCell (t : Table) (column : String) (row : List Json) : List Json :=
  match t.columnIndex? column with
  | some index => row.eraseIdx index
  | none => row

theorem rows_withoutColumn (t : Table) (column : String) :
    (t.withoutColumn column).rows = t.rows.map (t.dropCell column) := by
  cases h : t.columnIndex? column with
  | none =>
    have hid : t.dropCell column = id := by
      funext row
      rw [dropCell, h]
      rfl
    rw [withoutColumn_of_not_mem (columnIndex?_eq_none_iff.mp h), hid, List.map_id]
  | some index =>
    have hdrop : t.dropCell column = (·.eraseIdx index) := by
      funext row
      rw [dropCell, h]
    rw [withoutColumn_eq h, hdrop]

theorem cellWhere?_withoutColumn {p : String → Bool} (hp : p column = false) (row : List Json) :
    cellWhere? (t.withoutColumn column).headers p (t.dropCell column row) =
      cellWhere? t.headers p row := by
  cases h : t.columnIndex? column with
  | none => rw [withoutColumn_of_not_mem (columnIndex?_eq_none_iff.mp h), dropCell, h]
  | some index =>
    rw [withoutColumn_eq h, dropCell, h]
    refine cellWhere?_eraseIdx (fun header hh ↦ ?_) row
    rw [getElem?_of_columnIndex? h] at hh
    exact Option.some.inj hh ▸ hp

theorem lookup?_withoutColumn {other : String} (h : other ≠ column) (row : List Json) :
    (t.withoutColumn column).lookup? (t.dropCell column row) other = t.lookup? row other :=
  cellWhere?_withoutColumn (p := (· == other)) (beq_eq_false_iff_ne.mpr h.symm) row

/-- The row's cell in the second column of the given name, if there are two. -/
def lookupSecond? (t : Table) (row : List Json) (column : String) : Option Json :=
  (t.withoutColumn column).lookup? (t.dropCell column row) column

/-! ## Projecting -/

/-- A row of the projection of the table to the given columns. -/
def projectRow (t : Table) (columns : List String) (row : List Json) : List Json :=
  (columns.filterMap t.columnIndex?).map (cellAt row)

theorem rows_project (t : Table) (columns : List String) :
    (t.project columns).rows = t.rows.map (t.projectRow columns) := rfl

private theorem cellWhere?_filter_hasColumn (t : Table) (columns : List String)
    (row : List Json) :
    cellWhere? (columns.filter t.hasColumn) (· == column) (t.projectRow columns row) =
      if column ∈ columns then t.lookup? row column else none := by
  induction columns with
  | nil => rfl
  | cons other columns ih =>
    cases ho : t.columnIndex? other with
    | none =>
      -- A column that is not there takes no place in the projected row either.
      have hh : t.hasColumn other = false :=
        Bool.eq_false_iff.mpr (mt hasColumn_iff.mp (columnIndex?_eq_none_iff.mp ho))
      rw [List.filter_cons_of_neg (by rw [hh]; exact Bool.false_ne_true), projectRow,
        List.filterMap_cons_none ho, ← projectRow, ih]
      by_cases hc : column = other
      · subst hc
        have hn : t.lookup? row column = none := by rw [lookup?, ho]; rfl
        simp [hn]
      · simp [hc]
    | some index =>
      have hh : t.hasColumn other = true := by
        rw [hasColumn_iff]
        exact List.mem_of_getElem? (getElem?_of_columnIndex? ho)
      rw [List.filter_cons_of_pos hh, projectRow, List.filterMap_cons_some ho, List.map_cons,
        cellWhere?_cons, List.tail_cons, ← projectRow, ih]
      by_cases hc : column = other
      · subst hc
        rw [if_pos (beq_self_eq_true _), if_pos List.mem_cons_self, lookup?, ho]
        rfl
      · rw [if_neg (by simpa using Ne.symm hc)]
        simp [hc]

theorem lookup?_project (t : Table) (columns : List String) (row : List Json) :
    (t.project columns).lookup? (t.projectRow columns row) column =
      if column ∈ columns then t.lookup? row column else none :=
  cellWhere?_filter_hasColumn t columns row

end LeagueStandings.Table
