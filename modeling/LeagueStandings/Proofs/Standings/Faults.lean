import LeagueStandings.Proofs.Standings.Reading

/-!
# Faulty cells

Each column of the rows expects cells of one kind, and the identifier must also have a value. A
cell that a column does not accept is faulty for it (`FaultyCell`), and this says the whole truth
about the failures of a row: reading one whose identifier is there and whose points have a value
fails only over a faulty cell, and names its column (`faultOf_of_ofCells`).
-/

namespace LeagueStandings

/-- What a column of the rows expects of its cells. -/
def columnKind (column : String) : CellKind :=
  if column ∈ [teamIdColumn, "wins", "losses"] then .integer
  else if column ∈ ["win_pct", pointsColumn, "opp_points_per_game", "diff_points_pg"] then .number
  else .text

/-- The refusal of a reading, if it was refused. -/
def refusal? {α : Type} : Except CellRefusal α → Option CellRefusal
  | .ok _ => none
  | .error refusal => some refusal

/-- The refusal of a cell by the columns of a kind, if they refuse it. -/
def CellKind.refusal? : CellKind → Json → Option CellRefusal
  | integer, cell => LeagueStandings.refusal? cell.integerCell
  | number, cell => LeagueStandings.refusal? cell.numberCell
  | text, cell => LeagueStandings.refusal? cell.textCell

/-- The column does not accept the cell, for the given cause. -/
def FaultyCell (column : String) (cell : Json) : CellFault → Prop
  | .refused refusal => (columnKind column).refusal? cell = some refusal
  | .null => column = teamIdColumn ∧ cell.integerCell = .ok none

/-- The failure of the row with the given number names a column other than the points, and the
row shows a cell there that is faulty. -/
def FaultOf (cells : String → Option Json) (index : Nat) (failure : Failure) : Prop :=
  ∃ column cell cause, column ≠ pointsColumn ∧ cells column = some cell ∧
    FaultyCell column cell cause ∧ failure = .invalidCell column index cause

section Field

variable {α : Type} {column : String} {index : Nat}
  {read : Json → Except CellRefusal (Option α)} {cell? : Option Json} {failure : Failure}

/-- A field that has been read comes from a cell, or is absent for want of a column. -/
theorem readField_eq_ok_iff {entry : Entry α} :
    readField column index read cell? = .ok entry ↔
      (cell? = none ∧ entry = .absent) ∨
        ∃ cell value, cell? = some cell ∧ read cell = .ok value ∧ entry = .ofCell value := by
  cases cell? with
  | none =>
    rw [readField]
    constructor
    · intro h
      exact .inl ⟨rfl, (Except.ok.inj h).symm⟩
    · rintro (⟨-, rfl⟩ | ⟨_, _, h, -⟩)
      · rfl
      · cases h
  | some cell =>
    rw [readField]
    constructor
    · intro h
      cases hread : read cell with
      | error refusal =>
        rw [hread] at h
        cases h
      | ok value =>
        rw [hread] at h
        exact .inr ⟨cell, value, rfl, hread, (Except.ok.inj h).symm⟩
    · rintro (⟨h, -⟩ | ⟨_, value, h, hread, rfl⟩)
      · cases h
      · cases h
        rw [hread]

theorem readField_eq_error_iff :
    readField column index read cell? = .error failure ↔
      ∃ cell refusal, cell? = some cell ∧ read cell = .error refusal ∧
        failure = .invalidCell column index (.refused refusal) := by
  cases cell? with
  | none =>
    constructor
    · intro h
      cases h
    · rintro ⟨_, _, h, -⟩
      cases h
  | some cell =>
    rw [readField]
    constructor
    · intro h
      cases hr : read cell with
      | ok value =>
        rw [hr] at h
        cases h
      | error refusal =>
        rw [hr] at h
        exact ⟨cell, refusal, rfl, hr, (Except.error.inj h).symm⟩
    · rintro ⟨_, refusal, hc, hr, rfl⟩
      cases hc
      rw [hr]

theorem requireField_eq_ok_iff {a : α} :
    requireField column index read cell? = .ok a ↔
      ∃ cell, cell? = some cell ∧ read cell = .ok (some a) := by
  cases cell? with
  | none =>
    constructor
    · intro h
      cases h
    · rintro ⟨_, h, -⟩
      cases h
  | some cell =>
    rw [requireField, readField]
    constructor
    · intro h
      cases hr : read cell with
      | error refusal =>
        rw [hr] at h
        cases h
      | ok value =>
        rw [hr] at h
        cases value with
        | none => cases h
        | some b => exact ⟨cell, rfl, Except.ok.inj h ▸ hr⟩
    · rintro ⟨_, hc, hr⟩
      cases hc
      rw [hr]
      rfl

theorem readField_renumber {entry : Entry α} (h : readField column index read cell? = .ok entry)
    (other : Nat) : readField column other read cell? = .ok entry :=
  readField_eq_ok_iff.mpr (readField_eq_ok_iff.mp h)

theorem requireField_renumber {a : α} (h : requireField column index read cell? = .ok a)
    (other : Nat) : requireField column other read cell? = .ok a :=
  requireField_eq_ok_iff.mpr (requireField_eq_ok_iff.mp h)

theorem requireField_some_eq_error {cell : Json}
    (h : requireField column index read (some cell) = .error failure) :
    ∃ cause, failure = .invalidCell column index cause ∧
      ((∃ refusal, cause = .refused refusal ∧ read cell = .error refusal) ∨
        (cause = .null ∧ read cell = .ok none)) := by
  rw [requireField, readField] at h
  cases hr : read cell with
  | error refusal =>
    rw [hr] at h
    exact ⟨.refused refusal, (Except.error.inj h).symm, .inl ⟨refusal, rfl, rfl⟩⟩
  | ok value =>
    rw [hr] at h
    cases value with
    | none => exact ⟨.null, (Except.error.inj h).symm, .inr ⟨rfl, rfl⟩⟩
    | some a => cases h

end Field

/-- A field that cannot be read is a fault of its column, for any reader of the column's kind. -/
private theorem faultOf_of_readField {α : Type} {cells : String → Option Json} {column : String}
    {index : Nat} {read : Json → Except CellRefusal (Option α)} {failure : Failure}
    (hne : column ≠ pointsColumn)
    (hkind : ∀ cell, (columnKind column).refusal? cell = refusal? (read cell))
    (h : readField column index read (cells column) = .error failure) :
    FaultOf cells index failure := by
  obtain ⟨cell, refusal, hcell, hr, rfl⟩ := readField_eq_error_iff.mp h
  refine ⟨column, cell, .refused refusal, hne, hcell, ?_, rfl⟩
  rw [FaultyCell, hkind, hr]
  rfl

/-- **What a row fails over.** A row that shows an identifier and has points fails only over a
faulty cell in another column. -/
theorem faultOf_of_ofCells {cells : String → Option Json} {index : Nat} {failure : Failure}
    (hid : cells teamIdColumn ≠ none)
    (hpoints : ∃ points, requireField pointsColumn index Json.numberCell (cells pointsColumn) =
      .ok points)
    (h : StandingsRow.ofCells cells index = .error failure) : FaultOf cells index failure := by
  rw [StandingsRow.ofCells] at h
  -- The columns in the order in which they are read; each either fails here or is passed.
  obtain h | ⟨id, -, h⟩ := bind_eq_error_iff.mp h
  · obtain ⟨cell, hcell⟩ := Option.ne_none_iff_exists'.mp hid
    rw [hcell] at h
    obtain ⟨cause, rfl, hcause⟩ := requireField_some_eq_error h
    refine ⟨teamIdColumn, cell, cause, by decide, hcell, ?_, rfl⟩
    rcases hcause with ⟨refusal, rfl, hr⟩ | ⟨rfl, hr⟩
    · change refusal? cell.integerCell = some refusal
      rw [hr]
      rfl
    · exact ⟨rfl, hr⟩
  obtain h | ⟨city, -, h⟩ := bind_eq_error_iff.mp h
  · exact faultOf_of_readField (by decide) (fun _ ↦ rfl) h
  obtain h | ⟨name, -, h⟩ := bind_eq_error_iff.mp h
  · exact faultOf_of_readField (by decide) (fun _ ↦ rfl) h
  obtain h | ⟨conference, -, h⟩ := bind_eq_error_iff.mp h
  · exact faultOf_of_readField (by decide) (fun _ ↦ rfl) h
  obtain h | ⟨division, -, h⟩ := bind_eq_error_iff.mp h
  · exact faultOf_of_readField (by decide) (fun _ ↦ rfl) h
  obtain h | ⟨wins, -, h⟩ := bind_eq_error_iff.mp h
  · exact faultOf_of_readField (by decide) (fun _ ↦ rfl) h
  obtain h | ⟨losses, -, h⟩ := bind_eq_error_iff.mp h
  · exact faultOf_of_readField (by decide) (fun _ ↦ rfl) h
  obtain h | ⟨winPct, -, h⟩ := bind_eq_error_iff.mp h
  · exact faultOf_of_readField (by decide) (fun _ ↦ rfl) h
  obtain h | ⟨points, -, h⟩ := bind_eq_error_iff.mp h
  · obtain ⟨points, hp⟩ := hpoints
    rw [hp] at h
    cases h
  obtain h | ⟨opponentPoints, -, h⟩ := bind_eq_error_iff.mp h
  · exact faultOf_of_readField (by decide) (fun _ ↦ rfl) h
  obtain h | ⟨pointsDifference, -, h⟩ := bind_eq_error_iff.mp h
  · exact faultOf_of_readField (by decide) (fun _ ↦ rfl) h
  cases h

/-! ## Rows that could be read -/

theorem StandingsRow.ReadsFrom.renumber {cells : String → Option Json} {index : Nat}
    {row : StandingsRow} (h : row.ReadsFrom cells index) (other : Nat) :
    row.ReadsFrom cells other where
  sourceTeamId := requireField_renumber h.sourceTeamId other
  city := readField_renumber h.city other
  name := readField_renumber h.name other
  conference := readField_renumber h.conference other
  division := readField_renumber h.division other
  wins := readField_renumber h.wins other
  losses := readField_renumber h.losses other
  winPct := readField_renumber h.winPct other
  points := requireField_renumber h.points other
  opponentPoints := readField_renumber h.opponentPoints other
  pointsDifference := readField_renumber h.pointsDifference other
  fullName := h.fullName
  teamId := h.teamId

/-- The columns of the rows that are read from cells. -/
def rowColumns : List String := teamIdColumn :: standingsRenames.map Prod.snd

private theorem not_faultyCell_of_readField {α : Type} {cells : String → Option Json}
    {column : String} {index : Nat} {read : Json → Except CellRefusal (Option α)}
    {entry : Entry α} (hne : column ≠ teamIdColumn)
    (hkind : ∀ cell, (columnKind column).refusal? cell = refusal? (read cell))
    (h : readField column index read (cells column) = .ok entry) :
    ∀ cell cause, cells column = some cell → ¬ FaultyCell column cell cause := by
  intro cell cause hcell hfault
  cases cause with
  | null => exact hne hfault.1
  | refused refusal =>
    rw [FaultyCell, hkind] at hfault
    rw [hcell, readField] at h
    cases hr : read cell with
    | ok value =>
      rw [hr] at hfault
      cases hfault
    | error other =>
      rw [hr] at h
      cases h

private theorem not_faultyCell_of_requireField {α : Type} {cells : String → Option Json}
    {column : String} {index : Nat} {read : Json → Except CellRefusal (Option α)} {a : α}
    (hkind : ∀ cell, (columnKind column).refusal? cell = refusal? (read cell))
    (hnull : ∀ cell, FaultyCell column cell .null → read cell = .ok none)
    (h : requireField column index read (cells column) = .ok a) :
    ∀ cell cause, cells column = some cell → ¬ FaultyCell column cell cause := by
  intro cell cause hcell hfault
  obtain ⟨other, hother, hr⟩ := requireField_eq_ok_iff.mp h
  cases hcell.symm.trans hother
  cases cause with
  | null =>
    rw [hnull cell hfault] at hr
    cases hr
  | refused refusal =>
    rw [FaultyCell, hkind, hr] at hfault
    cases hfault

theorem not_faultyCell_of_ofCells {cells : String → Option Json} {index : Nat}
    {row : StandingsRow} (h : StandingsRow.ofCells cells index = .ok row) :
    ∀ column ∈ rowColumns, ∀ cell cause, cells column = some cell →
      ¬ FaultyCell column cell cause := by
  have hreads := StandingsRow.ofCells_eq_ok_iff.mp h
  intro column hcolumn
  simp only [rowColumns, standingsRenames, List.map_cons, List.map_nil, List.mem_cons,
    List.not_mem_nil, or_false] at hcolumn
  rcases hcolumn with
    rfl | rfl | rfl | rfl | rfl | rfl | rfl | rfl | rfl | rfl | rfl
  · exact not_faultyCell_of_requireField (fun _ ↦ rfl) (fun _ h ↦ h.2) hreads.sourceTeamId
  · exact not_faultyCell_of_readField (by decide) (fun _ ↦ rfl) hreads.city
  · exact not_faultyCell_of_readField (by decide) (fun _ ↦ rfl) hreads.name
  · exact not_faultyCell_of_readField (by decide) (fun _ ↦ rfl) hreads.conference
  · exact not_faultyCell_of_readField (by decide) (fun _ ↦ rfl) hreads.division
  · exact not_faultyCell_of_readField (by decide) (fun _ ↦ rfl) hreads.wins
  · exact not_faultyCell_of_readField (by decide) (fun _ ↦ rfl) hreads.losses
  · exact not_faultyCell_of_readField (by decide) (fun _ ↦ rfl) hreads.winPct
  · refine not_faultyCell_of_requireField (fun _ ↦ rfl) (fun cell h ↦ ?_) hreads.points
    exact absurd h.1 (by decide)
  · exact not_faultyCell_of_readField (by decide) (fun _ ↦ rfl) hreads.opponentPoints
  · exact not_faultyCell_of_readField (by decide) (fun _ ↦ rfl) hreads.pointsDifference

end LeagueStandings
