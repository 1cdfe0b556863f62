import LeagueStandings.Proofs.Standings.Faults

/-!
# How normalizing ends

A normalizer has five ways to fail, and each is met only where the ones before it are not:

1. the table has no column that identifies a team;
2. a wanted column is missing and the normalizer is strict;
3. there is no column of points;
4. a row has points that cannot be read;
5. a retained row shows a faulty cell in another column.

`Fails` says so for a given failure, and `fails_of_normalize_eq_error` that nothing else happens.
The converses need no relation of their own: `Normalizer.rowByRow` is the same five steps as a
computation. Success is what is left (`normalize_eq_ok_iff`): the points of every row can be read,
and each retained row becomes one line.
-/

namespace LeagueStandings.Normalizer

/-- The headers of the table let the normalizer get as far as its rows. -/
structure ReachesRows (n : Normalizer) (t : Table) : Prop where
  hasIdentifier : t.HasIdentifier
  notMissing : ¬ (n.strict = true ∧ t.absentColumns ≠ [])
  hasPoints : "PointsPG" ∈ t.headers

/-- What a normalizer fails over on a table, with the failure that it gives. -/
inductive Fails (n : Normalizer) (t : Table) : Failure → Prop
  | unidentified : ¬ t.HasIdentifier → Fails n t (.unidentified t.name t.headers)
  | missing : t.HasIdentifier → n.strict = true ∧ t.absentColumns ≠ [] →
      Fails n t (.missingColumns t.absentColumns)
  | pointless : t.HasIdentifier → ¬ (n.strict = true ∧ t.absentColumns ≠ []) →
      "PointsPG" ∉ t.headers → Fails n t (.missingColumns [pointsColumn])
  | points {index : Nat} {row : List Json} {refusal : CellRefusal} : n.ReachesRows t →
      t.rows[index]? = some row → t.points row = .error refusal →
      (∀ i < index, ∀ other, t.rows[i]? = some other → ∃ points, t.points other = .ok points) →
      Fails n t (.invalidCell pointsColumn index (.refused refusal))
  | cell {index : Nat} {row : List Json} {column : String} {cell : Json} {cause : CellFault} :
      n.ReachesRows t → (∀ row ∈ t.rows, ∃ points, t.points row = .ok points) →
      (n.retained t)[index]? = some row → column ≠ pointsColumn →
      t.sourceCell? row column = some cell → FaultyCell column cell cause →
      (∀ i < index, ∀ other, (n.retained t)[i]? = some other →
        ∃ result, StandingsRow.ofCells (t.sourceCell? other) i = .ok result) →
      Fails n t (.invalidCell column index cause)

variable {n : Normalizer} {t : Table} {failure : Failure}

theorem mem_retained_iff {row : List Json} :
    row ∈ n.retained t ↔ row ∈ t.rows ∧
      ∃ points, t.points row = .ok (some points) ∧ n.range.contains points = true := by
  rw [retained, List.mem_filter, retains]
  cases t.points row with
  | error refusal => simp [accepts]
  | ok points => cases points <;> simp [accepts]

theorem rowByRow_of_reachesRows (h : n.ReachesRows t)
    (cells : List Json → String → Option Json) :
    n.rowByRow t cells = (do
      let _ ← t.rows.zipIdx.mapM fun row ↦ checkPoints (t.points row.1) row.2
      (n.retained t).zipIdx.mapM fun row ↦ StandingsRow.ofCells (cells row.1) row.2) := by
  rw [rowByRow, if_neg (not_not_intro h.hasIdentifier), if_neg h.notMissing,
    if_neg (not_not_intro h.hasPoints)]

theorem exists_mapM_checkPoints_eq_ok_iff :
    (∃ values, (t.rows.zipIdx.mapM fun row ↦ checkPoints (t.points row.1) row.2) = .ok values) ↔
      ∀ row ∈ t.rows, ∃ points, t.points row = .ok points := by
  rw [exists_mapM_eq_ok_iff]
  simp only [exists_checkPoints_eq_ok_iff]
  constructor
  · intro h row hrow
    obtain ⟨index, hindex⟩ := List.mem_iff_getElem?.mp hrow
    exact h (row, index) (List.mem_zipIdx_iff_getElem?.mpr hindex)
  · intro h row hrow
    exact h row.1 (List.mem_of_getElem? (List.mem_zipIdx_iff_getElem?.mp hrow))

/-- The points of a retained row are those that its standings row requires. -/
private theorem requireField_of_mem_retained (hpoints : "PointsPG" ∈ t.headers) {row : List Json}
    (hrow : row ∈ n.retained t) (index : Nat) :
    ∃ points, requireField pointsColumn index Json.numberCell (t.sourceCell? row pointsColumn) =
      .ok points := by
  obtain ⟨-, points, hread, -⟩ := mem_retained_iff.mp hrow
  obtain ⟨cell, hcell⟩ := Option.ne_none_iff_exists'.mp
    (mt Table.lookup?_eq_none_iff.mp (not_not_intro hpoints) : t.lookup? row "PointsPG" ≠ none)
  rw [Table.points, hcell] at hread
  refine ⟨points, requireField_eq_ok_iff.mpr ⟨cell, ?_, hread⟩⟩
  rw [Table.sourceCell?_pointsColumn, hcell]

/-- **How normalizing fails.** A failure is one of the five, with everything before it passed. -/
theorem fails_of_normalize_eq_error (h : n.normalize t = .error failure) : n.Fails t failure := by
  rw [normalize_eq] at h
  by_cases hid : t.HasIdentifier
  swap
  · rw [rowByRow, if_pos hid] at h
    exact Except.error.inj h ▸ .unidentified hid
  by_cases hmissing : n.strict = true ∧ t.absentColumns ≠ []
  · rw [rowByRow, if_neg (not_not_intro hid), if_pos hmissing] at h
    exact Except.error.inj h ▸ .missing hid hmissing
  by_cases hpoints : "PointsPG" ∈ t.headers
  swap
  · rw [rowByRow, if_neg (not_not_intro hid), if_neg hmissing, if_pos hpoints] at h
    exact Except.error.inj h ▸ .pointless hid hmissing hpoints
  -- From here on the headers are in order, and the failure is one of a row.
  have hreaches : n.ReachesRows t := ⟨hid, hmissing, hpoints⟩
  rw [rowByRow_of_reachesRows hreaches] at h
  rcases bind_eq_error_iff.mp h with h | ⟨values, hvalues, h⟩
  · obtain ⟨index, row, hrow, hcheck, hbefore⟩ :=
      (mapM_zipIdx_eq_error_iff (f := fun row ↦ checkPoints (t.points row))).mp h
    obtain ⟨refusal, hrefusal, rfl⟩ := checkPoints_eq_error_iff.mp hcheck
    exact .points hreaches hrow hrefusal fun i hi other ho ↦
      exists_checkPoints_eq_ok_iff.mp (hbefore i hi other ho)
  · obtain ⟨index, row, hrow, hread, hbefore⟩ :=
      (mapM_zipIdx_eq_error_iff (f := fun row ↦ StandingsRow.ofCells (t.sourceCell? row))).mp h
    have hsource : t.sourceCell? row teamIdColumn ≠ none := by
      rw [Table.sourceCell?_teamIdColumn]
      exact Table.identifierCell?_ne_none_iff.mpr hid
    obtain ⟨column, cell, cause, hcolumn, hcell, hfault, rfl⟩ := faultOf_of_ofCells hsource
      (requireField_of_mem_retained hpoints (List.mem_of_getElem? hrow) index) hread
    exact .cell hreaches (exists_mapM_checkPoints_eq_ok_iff.mp ⟨values, hvalues⟩) hrow hcolumn
      hcell hfault hbefore

/-- **How normalizing succeeds.** The lines are read from the retained rows, one from each. -/
theorem normalize_eq_ok_iff {lines : List StandingsRow} :
    n.normalize t = .ok lines ↔
      n.ReachesRows t ∧ (∀ row ∈ t.rows, ∃ points, t.points row = .ok points) ∧
        List.Forall₂ (fun row line ↦ line.ReadsFrom (t.sourceCell? row.1) row.2)
          (n.retained t).zipIdx lines := by
  rw [normalize_eq]
  constructor
  · intro h
    have hreaches : n.ReachesRows t := by
      rw [rowByRow] at h
      split at h
      · cases h
      · next hid =>
        split at h
        · cases h
        · next hmissing =>
          split at h
          · cases h
          · next hpoints => exact ⟨not_not.mp hid, hmissing, not_not.mp hpoints⟩
    rw [rowByRow_of_reachesRows hreaches] at h
    obtain ⟨values, hvalues, h⟩ := bind_eq_ok_iff.mp h
    refine ⟨hreaches, exists_mapM_checkPoints_eq_ok_iff.mp ⟨values, hvalues⟩, ?_⟩
    exact (mapM_eq_ok_iff.mp h).imp fun _ _ ↦ StandingsRow.ofCells_eq_ok_iff.mp
  · rintro ⟨hreaches, hpoints, hlines⟩
    obtain ⟨values, hvalues⟩ := exists_mapM_checkPoints_eq_ok_iff.mpr hpoints
    rw [rowByRow_of_reachesRows hreaches, hvalues, ok_bind, mapM_eq_ok_iff]
    exact hlines.imp fun _ _ ↦ StandingsRow.ofCells_eq_ok_iff.mpr

theorem forall₂_readsFrom {lines : List StandingsRow} (h : n.normalize t = .ok lines) :
    List.Forall₂ (fun row line ↦ ∃ index, line.ReadsFrom (t.sourceCell? row) index)
      (n.retained t) lines := by
  obtain ⟨-, -, hlines⟩ := normalize_eq_ok_iff.mp h
  rw [← List.zipIdx_map_fst 0 (n.retained t), List.forall₂_map_left_iff]
  exact hlines.imp fun row line hreads ↦ ⟨row.2, hreads⟩

/-! ## The points of the lines -/

section Points

variable {row : List Json} {line : StandingsRow} {index : Nat}

/-- What a line requires of its points is what the range was asked about. -/
theorem points_of_readsFrom (h : line.ReadsFrom (t.sourceCell? row) index) :
    t.points row = .ok (some line.points) := by
  obtain ⟨cell, hcell, hread⟩ := requireField_eq_ok_iff.mp h.points
  rw [Table.sourceCell?_pointsColumn] at hcell
  rw [Table.points, hcell, Option.getD_some, hread]

theorem retains_eq_of_readsFrom (n : Normalizer) (h : line.ReadsFrom (t.sourceCell? row) index) :
    n.retains t row = n.range.contains line.points := by
  rw [retains, points_of_readsFrom h, accepts, Option.any_some]

end Points

theorem contains_points_of_normalize {lines : List StandingsRow} {line : StandingsRow}
    (h : n.normalize t = .ok lines) (hline : line ∈ lines) :
    n.range.contains line.points = true := by
  obtain ⟨row, hrow, index, hreads⟩ := exists_of_mem_forall₂ (forall₂_readsFrom h) hline
  rw [← retains_eq_of_readsFrom n hreads]
  exact (List.mem_filter.mp hrow).2

theorem isFinite_of_contains {range : PointsRange} {x : Binary64}
    (hlowest : range.lowest.isFinite = true) (hhighest : range.highest.isFinite = true)
    (h : range.contains x = true) : x.isFinite = true := by
  obtain ⟨lowest, highest⟩ := range
  cases lowest with
  | finite _ _ =>
    cases highest with
    | finite _ _ => rcases x with _ | ⟨_ | _⟩ | _ <;> first | rfl | cases h
    | _ => cases hhighest
  | _ => cases hlowest

theorem isFinite_points_of_normalize {lines : List StandingsRow}
    (hlowest : n.range.lowest.isFinite = true) (hhighest : n.range.highest.isFinite = true)
    (h : n.normalize t = .ok lines) : ∀ line ∈ lines, line.points.isFinite = true :=
  fun _ hline ↦ isFinite_of_contains hlowest hhighest (contains_points_of_normalize h hline)

end LeagueStandings.Normalizer
