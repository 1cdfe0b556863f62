import LeagueStandings.Proofs.Standings.Reference

/-!
# Which row an invalid cell is in

A failure over a cell names a column and a row number, and it should lead to the row of the input
table that shows the cell. For the points it does. For every other column the number counts the
retained rows only, since the rows that the range excludes are gone by then: it is the number of the
row less the number of dropped rows in front of it (`invalidCell_at`).

So the number leads astray as soon as a dropped row precedes the faulty one. It then stands for an
earlier row. That row may show a faulty cell as well, but only if it is a dropped one, whose cells
were never asked for.
-/

namespace LeagueStandings

/-! ## Positions in a filtered list -/

section Filter

variable {α : Type} {p : α → Bool} {l : List α}

/-- An element that passes stands, among those that do, behind the ones before it. -/
theorem getElem?_filter_countP_take {i : Nat} {a : α} (h : l[i]? = some a) (hp : p a = true) :
    (l.filter p)[(l.take i).countP p]? = some a := by
  induction l generalizing i with
  | nil => cases h
  | cons head l ih =>
    cases i with
    | zero =>
      cases h
      rw [List.filter_cons_of_pos hp]
      rfl
    | succ i =>
      rw [List.getElem?_cons_succ] at h
      by_cases hhead : p head = true
      · rw [List.take_succ_cons, List.filter_cons_of_pos hhead, List.countP_cons_of_pos hhead]
        exact ih h
      · rw [List.take_succ_cons, List.filter_cons_of_neg hhead, List.countP_cons_of_neg hhead]
        exact ih h

theorem exists_of_getElem?_filter {k : Nat} {a : α} (h : (l.filter p)[k]? = some a) :
    ∃ i, l[i]? = some a ∧ p a = true ∧ k = (l.take i).countP p := by
  induction l generalizing k with
  | nil => cases h
  | cons head l ih =>
    by_cases hhead : p head = true
    · rw [List.filter_cons_of_pos hhead] at h
      cases k with
      | zero =>
        cases h
        exact ⟨0, rfl, hhead, rfl⟩
      | succ k =>
        obtain ⟨i, hi, hp, rfl⟩ := ih h
        exact ⟨i + 1, hi, hp, by rw [List.take_succ_cons, List.countP_cons_of_pos hhead]⟩
    · rw [List.filter_cons_of_neg hhead] at h
      obtain ⟨i, hi, hp, rfl⟩ := ih h
      exact ⟨i + 1, hi, hp, by rw [List.take_succ_cons, List.countP_cons_of_neg hhead]⟩

theorem countP_take_lt {i j : Nat} {a : α} (hij : i < j) (h : l[i]? = some a) (hp : p a = true) :
    (l.take i).countP p < (l.take j).countP p := by
  have htake : l.take (i + 1) = l.take i ++ [a] := by
    rw [List.take_add_one, h]
    rfl
  have hle : (l.take (i + 1)).countP p ≤ (l.take j).countP p :=
    (List.take_prefix_take_left hij).sublist.countP_le
  rw [htake, List.countP_append, List.countP_cons_of_pos hp] at hle
  exact Nat.lt_of_succ_le hle

end Filter

/-! ## The fault that a failure names -/

namespace Table

/-- The row of the input table with the given number shows a cell that the column refuses for the
given cause. -/
def FaultyAt (t : Table) (column : String) (index : Nat) (cause : CellFault) : Prop :=
  ∃ row cell, t.rows[index]? = some row ∧ t.namedCell? row column = some cell ∧
    FaultyCell column cell cause

theorem mem_rowColumns_of_sourceCell? {t : Table} {row : List Json} {column : String} {cell : Json}
    (h : t.sourceCell? row column = some cell) : column ∈ rowColumns := by
  have hnew : ∀ wanted ∈ standingsColumns, renamed standingsRenames wanted ∈ rowColumns := by decide
  rw [sourceCell?, Option.bind_eq_some_iff] at h
  obtain ⟨wanted, hwanted, -⟩ := h
  have hmem := mem_standingsColumns_of_wantedColumn? hwanted
  rw [← (renamed_eq_iff hmem).mpr hwanted]
  exact hnew wanted hmem

end Table

namespace Normalizer

variable {n : Normalizer} {t : Table} {column : String} {index : Nat} {cause : CellFault}

private theorem faultyAt_of_points (hnamed : t.sourceCell? = t.namedCell?)
    (hpoints : "PointsPG" ∈ t.headers) {row : List Json} {refusal : CellRefusal}
    (hrow : t.rows[index]? = some row) (hrefusal : t.points row = .error refusal) :
    t.FaultyAt pointsColumn index (.refused refusal) := by
  obtain ⟨cell, hcell⟩ : ∃ cell, t.lookup? row "PointsPG" = some cell :=
    Table.exists_lookup?_of_mem hpoints
  rw [Table.points, hcell, Option.getD_some] at hrefusal
  refine ⟨row, cell, hrow, ?_, ?_⟩
  · rw [← hnamed, Table.sourceCell?_pointsColumn, hcell]
  · change refusal? cell.numberCell = some refusal
    rw [hrefusal]
    rfl

/-- A row that shows a fault and stands before the one that was refused is a dropped row: if it had
been retained, it would have been refused first. -/
private theorem exists_dropped_of_faultyAt (hnamed : t.sourceCell? = t.namedCell?) {i : Nat}
    (hbefore : ∀ k < (t.rows.take i).countP (n.retains t), ∀ other,
      (n.retained t)[k]? = some other →
        ∃ line, StandingsRow.ofCells (t.sourceCell? other) k = .ok line)
    (hi : index < i) (hfault : t.FaultyAt column index cause) :
    ∃ row, t.rows[index]? = some row ∧ n.retains t row = false := by
  obtain ⟨row, cell, hrow, hcell, hcause⟩ := hfault
  refine ⟨row, hrow, Bool.eq_false_iff.mpr fun hretains ↦ ?_⟩
  obtain ⟨line, hline⟩ := hbefore _ (countP_take_lt hi hrow hretains) row
    (getElem?_filter_countP_take hrow hretains)
  rw [← hnamed] at hcell
  exact not_faultyCell_of_ofCells hline column (Table.mem_rowColumns_of_sourceCell? hcell) cell
    cause hcell hcause

/-- **Where an invalid cell is.** The failure names a column and a cause, and some row of the input
table shows such a fault. The number is that row's own for the points, and otherwise its number
among the retained rows; so it is its own exactly if no row before it was dropped. Where it is not,
the row with the given number shows a fault in the column only if it is a dropped row. -/
theorem invalidCell_at (hcount : t.headers.count teamIdColumn ≤ 1)
    (h : n.normalize t = .error (.invalidCell column index cause)) :
    ∃ i row, t.rows[i]? = some row ∧ t.FaultyAt column i cause ∧
      (column = pointsColumn → index = i) ∧
      (column ≠ pointsColumn →
        n.retains t row = true ∧ index = (t.rows.take i).countP (n.retains t)) ∧
      (index = i ↔ column = pointsColumn ∨ ∀ other ∈ t.rows.take i, n.retains t other = true) ∧
      ((∃ cause, t.FaultyAt column index cause) ↔
        index = i ∨ (∃ other, t.rows[index]? = some other ∧ n.retains t other = false) ∧
          ∃ cause, t.FaultyAt column index cause) := by
  have hnamed : t.sourceCell? = t.namedCell? :=
    Table.sourceCell?_eq_namedCell? fun _ ↦ Table.aliasLeads_of_count_le_one hcount
  cases fails_of_normalize_eq_error h with
  | points hreaches hrow hrefusal hbefore =>
    have hfault := faultyAt_of_points hnamed hreaches.hasPoints hrow hrefusal
    exact ⟨index, _, hrow, hfault, fun _ ↦ rfl, fun hne ↦ absurd rfl hne,
      iff_of_true rfl (.inl rfl), iff_of_true ⟨_, hfault⟩ (.inl rfl)⟩
  | @cell _ row _ cell _ hreaches hpoints hrow hne hcell hfault hbefore =>
    obtain ⟨i, hi, hretains, rfl⟩ :=
      exists_of_getElem?_filter (p := n.retains t) (l := t.rows) hrow
    have hfaulty : t.FaultyAt column i cause := ⟨row, cell, hi, hnamed ▸ hcell, hfault⟩
    -- The number is `i` less the dropped rows before it, so it is at most `i`.
    have hlength : (t.rows.take i).length = i :=
      List.length_take_of_le (Nat.le_of_lt (List.getElem?_eq_some_iff.mp hi).1)
    have hle : (t.rows.take i).countP (n.retains t) ≤ i :=
      Nat.le_trans List.countP_le_length (Nat.le_of_eq hlength)
    refine ⟨i, row, hi, hfaulty, fun h ↦ absurd h hne, fun _ ↦ ⟨hretains, rfl⟩, ?_, ?_, ?_⟩
    · rw [or_iff_right hne, ← List.countP_eq_length, hlength]
    · rintro ⟨other, hother⟩
      rcases Nat.lt_or_eq_of_le hle with hlt | heq
      · exact .inr ⟨exists_dropped_of_faultyAt hnamed hbefore hlt hother, other, hother⟩
      · exact .inl heq
    · rintro (heq | ⟨-, hother⟩)
      · exact ⟨cause, heq.symm ▸ hfaulty⟩
      · exact hother

/-- The column and the row number of a failure over a cell. -/
private def invalidCell? : Except Failure (List StandingsRow) → Option (String × Nat)
  | .error (.invalidCell column index _) => some (column, index)
  | _ => none

private theorem exists_cause_of_invalidCell? {result : Except Failure (List StandingsRow)}
    (h : invalidCell? result = some (column, index)) :
    ∃ cause, result = .error (.invalidCell column index cause) := by
  unfold invalidCell? at h
  split at h
  · cases h
    exact ⟨_, rfl⟩
  · cases h

/-- A table whose first row has too few points and whose second row has no identifier. -/
def droppedThenFaulty : Table :=
  ⟨"Standings", ["TeamID", "PointsPG"], [[.int64 1, .int64 10], [.str "x", .int64 100]]⟩

private theorem exists_cause_droppedThenFaulty :
    ∃ cause, ({} : Normalizer).normalize droppedThenFaulty =
      .error (.invalidCell teamIdColumn 0 cause) :=
  exists_cause_of_invalidCell? (by decide +kernel)

/-- The failure of that table has a fault behind it. -/
theorem invalidCell_at_droppedThenFaulty :
    ∃ cause i row, droppedThenFaulty.rows[i]? = some row ∧
      droppedThenFaulty.FaultyAt teamIdColumn i cause := by
  obtain ⟨cause, hcause⟩ := exists_cause_droppedThenFaulty
  obtain ⟨i, row, hrow, hfault, -⟩ := invalidCell_at (by decide) hcause
  exact ⟨cause, i, row, hrow, hfault⟩

/-- It is not in the row that the number says: row 0 has an identifier. -/
theorem not_faultyAt_droppedThenFaulty :
    (∃ cause, ({} : Normalizer).normalize droppedThenFaulty =
      .error (.invalidCell teamIdColumn 0 cause)) ∧
    ∀ cause, ¬ droppedThenFaulty.FaultyAt teamIdColumn 0 cause := by
  refine ⟨exists_cause_droppedThenFaulty, ?_⟩
  rintro cause ⟨row, cell, hrow, hcell, hfault⟩
  cases hrow
  cases hcell
  cases cause with
  | refused refusal => cases hfault
  | null => cases hfault.2

end Normalizer

end LeagueStandings
