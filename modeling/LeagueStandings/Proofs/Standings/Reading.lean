import LeagueStandings.Proofs.Except
import LeagueStandings.Proofs.Standings.Selection

/-!
# Reading a table row by row

A standings row is made from the cells that a row of the table shows under eleven names, and from
nothing else. `StandingsRow.ofCells` is that reading, with the cells given as a function of the
name. It is what the reading of a selected row is (`readRow_eq`), and since the selected table shows
the source cells, it is also what the reading of a row of the input table is.

`normalize_eq` puts the stages together: a normalizer is a decision on the headers, a check of the
points, and then `StandingsRow.ofCells` on the source cells of each retained row.

## Which row a number counts

The check of the points counts the rows of the table. The reading of the other cells counts the
rows that are still there (`retained`), so there a number is a position among the retained rows.
-/

namespace LeagueStandings

/-! ## A row from its cells -/

/-- What a row says of a column, given the cell that it shows there, if the column is there. -/
def readField {α : Type} (column : String) (index : Nat)
    (read : Json → Except CellRefusal (Option α)) : Option Json → Except Failure (Entry α)
  | none => .ok .absent
  | some cell =>
    match read cell with
    | .ok value => .ok (.ofCell value)
    | .error refusal => .error (.invalidCell column index (.refused refusal))

/-- The value that a row has in a column, given the cell that it must show there. -/
def requireField {α : Type} (column : String) (index : Nat)
    (read : Json → Except CellRefusal (Option α)) (cell : Option Json) : Except Failure α := do
  match ← readField column index read cell with
  | .absent => .error (.missingColumns [column])
  | .null => .error (.invalidCell column index .null)
  | .value a => .ok a

/-- The standings row with the given number, made from the cells that it shows under each name. -/
def StandingsRow.ofCells (cells : String → Option Json) (index : Nat) :
    Except Failure StandingsRow := do
  let id ← requireField teamIdColumn index Json.integerCell (cells teamIdColumn)
  let city ← readField "team_city" index Json.textCell (cells "team_city")
  let name ← readField "team_name" index Json.textCell (cells "team_name")
  let conference ← readField "conference" index Json.textCell (cells "conference")
  let division ← readField "division" index Json.textCell (cells "division")
  let wins ← readField "wins" index Json.integerCell (cells "wins")
  let losses ← readField "losses" index Json.integerCell (cells "losses")
  let winPct ← readField "win_pct" index Json.numberCell (cells "win_pct")
  let points ← requireField pointsColumn index Json.numberCell (cells pointsColumn)
  let opponentPoints ←
    readField "opp_points_per_game" index Json.numberCell (cells "opp_points_per_game")
  let pointsDifference ← readField "diff_points_pg" index Json.numberCell (cells "diff_points_pg")
  return {
    sourceTeamId := id
    city, name, conference, division, wins, losses, winPct, points, opponentPoints
    pointsDifference
    fullName := LeagueStandings.fullName city name
    teamId := id }

/-- The row says of every column what the cells say of it. -/
structure StandingsRow.ReadsFrom (cells : String → Option Json) (index : Nat)
    (row : StandingsRow) : Prop where
  sourceTeamId : requireField teamIdColumn index Json.integerCell (cells teamIdColumn) =
    .ok row.sourceTeamId
  city : readField "team_city" index Json.textCell (cells "team_city") = .ok row.city
  name : readField "team_name" index Json.textCell (cells "team_name") = .ok row.name
  conference : readField "conference" index Json.textCell (cells "conference") = .ok row.conference
  division : readField "division" index Json.textCell (cells "division") = .ok row.division
  wins : readField "wins" index Json.integerCell (cells "wins") = .ok row.wins
  losses : readField "losses" index Json.integerCell (cells "losses") = .ok row.losses
  winPct : readField "win_pct" index Json.numberCell (cells "win_pct") = .ok row.winPct
  points : requireField pointsColumn index Json.numberCell (cells pointsColumn) = .ok row.points
  opponentPoints : readField "opp_points_per_game" index Json.numberCell
    (cells "opp_points_per_game") = .ok row.opponentPoints
  pointsDifference : readField "diff_points_pg" index Json.numberCell (cells "diff_points_pg") =
    .ok row.pointsDifference
  fullName : row.fullName = LeagueStandings.fullName row.city row.name
  teamId : row.teamId = row.sourceTeamId

theorem StandingsRow.ofCells_eq_ok_iff {cells : String → Option Json} {index : Nat}
    {row : StandingsRow} : ofCells cells index = .ok row ↔ row.ReadsFrom cells index := by
  constructor
  · intro h
    obtain ⟨id, hid, h⟩ := bind_eq_ok_iff.mp h
    obtain ⟨city, hcity, h⟩ := bind_eq_ok_iff.mp h
    obtain ⟨name, hname, h⟩ := bind_eq_ok_iff.mp h
    obtain ⟨conference, hconference, h⟩ := bind_eq_ok_iff.mp h
    obtain ⟨division, hdivision, h⟩ := bind_eq_ok_iff.mp h
    obtain ⟨wins, hwins, h⟩ := bind_eq_ok_iff.mp h
    obtain ⟨losses, hlosses, h⟩ := bind_eq_ok_iff.mp h
    obtain ⟨winPct, hwinPct, h⟩ := bind_eq_ok_iff.mp h
    obtain ⟨points, hpoints, h⟩ := bind_eq_ok_iff.mp h
    obtain ⟨opponentPoints, hopponentPoints, h⟩ := bind_eq_ok_iff.mp h
    obtain ⟨pointsDifference, hpointsDifference, h⟩ := bind_eq_ok_iff.mp h
    cases h
    exact ⟨hid, hcity, hname, hconference, hdivision, hwins, hlosses, hwinPct, hpoints,
      hopponentPoints, hpointsDifference, rfl, rfl⟩
  · intro h
    rw [ofCells, h.sourceTeamId, h.city, h.name, h.conference, h.division, h.wins, h.losses,
      h.winPct, h.points, h.opponentPoints, h.pointsDifference]
    have hfull := h.fullName
    have hteam := h.teamId
    cases row
    simp only at hfull hteam
    subst hfull hteam
    rfl

namespace Table

private theorem readEntry_eq {α : Type} (t : Table) (row : List Json) (index : Nat)
    (column : String) (read : Json → Except CellRefusal (Option α)) :
    t.readEntry row index column read = readField column index read (t.lookup? row column) := by
  rw [readEntry, lookup?]
  cases t.columnIndex? column <;> rfl

private theorem readValue_eq {α : Type} (t : Table) (row : List Json) (index : Nat)
    (column : String) (read : Json → Except CellRefusal (Option α)) :
    t.readValue row index column read = requireField column index read (t.lookup? row column) := by
  rw [readValue, readEntry_eq]
  rfl

theorem readRow_eq (t : Table) (row : List Json) (index : Nat) :
    t.readRow row index = StandingsRow.ofCells (t.lookup? row) index := by
  simp only [readRow, readEntry_eq, readValue_eq, StandingsRow.ofCells]

private theorem readRowsFrom_eq (t : Table) (index : Nat) (rows : List (List Json)) :
    t.readRowsFrom index rows =
      (rows.zipIdx index).mapM fun row ↦ StandingsRow.ofCells (t.lookup? row.1) row.2 := by
  induction rows generalizing index with
  | nil => rfl
  | cons row rows ih => rw [readRowsFrom, List.zipIdx_cons, List.mapM_cons, readRow_eq, ih]

/-- Rows that have been arranged say what they show where they have been put. -/
private theorem readRows_map (t : Table) (rows : List (List Json))
    (arrange : List Json → List Json) :
    readRows { t with rows := rows.map arrange } =
      rows.zipIdx.mapM fun row ↦ StandingsRow.ofCells (t.lookup? (arrange row.1)) row.2 := by
  rw [readRows, readRowsFrom_eq, List.zipIdx_map, List.mapM_map]
  rfl

/-! ## The points -/

/-- The points per game that a row of a standings table has. -/
def points (t : Table) (row : List Json) : Except CellRefusal (Option Binary64) :=
  Json.numberCell ((t.lookup? row "PointsPG").getD .null)

end Table

/-- The points of the row with the given number; a refusal fails with that number. -/
def checkPoints (points : Except CellRefusal (Option Binary64)) (index : Nat) :
    Except Failure (Option Binary64) :=
  points.mapError fun refusal ↦ .invalidCell pointsColumn index (.refused refusal)

theorem checkPoints_eq_error_iff {points : Except CellRefusal (Option Binary64)} {index : Nat}
    {failure : Failure} :
    checkPoints points index = .error failure ↔
      ∃ refusal, points = .error refusal ∧
        failure = .invalidCell pointsColumn index (.refused refusal) := by
  cases points with
  | ok points => exact iff_of_false (fun h ↦ nomatch h) (fun ⟨_, h, _⟩ ↦ nomatch h)
  | error refusal =>
    constructor
    · intro h
      exact ⟨refusal, rfl, (Except.error.inj h).symm⟩
    · rintro ⟨_, h, rfl⟩
      cases h
      rfl

theorem exists_checkPoints_eq_ok_iff {points : Except CellRefusal (Option Binary64)}
    {index : Nat} :
    (∃ value, checkPoints points index = .ok value) ↔ ∃ value, points = .ok value := by
  cases points with
  | ok points => exact iff_of_true ⟨points, rfl⟩ ⟨points, rfl⟩
  | error refusal => exact iff_of_false (fun ⟨_, h⟩ ↦ nomatch h) (fun ⟨_, h⟩ ↦ nomatch h)

namespace Normalizer

/-- Points that have been read and lie in the range. -/
def accepts (n : Normalizer) : Except CellRefusal (Option Binary64) → Bool
  | .ok points => points.any n.range.contains
  | .error _ => false

/-- The row is not dropped for its points. -/
def retains (n : Normalizer) (t : Table) (row : List Json) : Bool := n.accepts (t.points row)

/-- The rows of the table that are not dropped for their points. -/
def retained (n : Normalizer) (t : Table) : List (List Json) := t.rows.filter (n.retains t)

/-- Retaining rows checks the points of all of them and then filters. -/
private theorem retainFrom_eq (n : Normalizer) (column index : Nat) (rows : List (List Json)) :
    n.retainFrom column index rows = (do
      let _ ← (rows.zipIdx index).mapM fun row ↦
        checkPoints (Json.numberCell (Table.cellAt row.1 column)) row.2
      return rows.filter fun row ↦ n.accepts (Json.numberCell (Table.cellAt row column))) := by
  induction rows generalizing index with
  | nil => rfl
  | cons row rows ih =>
    rw [retainFrom, List.zipIdx_cons, List.mapM_cons, List.filter_cons]
    cases hr : Json.numberCell (Table.cellAt row column) with
    | error refusal => rfl
    | ok points =>
      dsimp only
      rw [ih]
      cases (rows.zipIdx (index + 1)).mapM fun row ↦
          checkPoints (Json.numberCell (Table.cellAt row.1 column)) row.2 <;> rfl

/-- The rows of a standings table read one by one, given the cells that each shows under the names
of the columns of the rows. The headers decide first, then the points of all rows, and then the
cells of the retained rows. -/
def rowByRow (n : Normalizer) (t : Table) (cells : List Json → String → Option Json) :
    Except Failure (List StandingsRow) :=
  if ¬ t.HasIdentifier then .error (.unidentified t.name t.headers)
  else if n.strict ∧ t.absentColumns ≠ [] then .error (.missingColumns t.absentColumns)
  else if "PointsPG" ∉ t.headers then .error (.missingColumns [pointsColumn])
  else do
    let _ ← t.rows.zipIdx.mapM fun row ↦ checkPoints (t.points row.1) row.2
    (n.retained t).zipIdx.mapM fun row ↦ StandingsRow.ofCells (cells row.1) row.2

private theorem select_eq (n : Normalizer) {t : Table} (h : t.HasIdentifier) :
    n.select t.identified =
      if n.strict ∧ t.absentColumns ≠ [] then .error (.missingColumns t.absentColumns)
      else .ok (t.identified.project (t.identified.available standingsColumns)) := by
  rw [select, Table.missing_identified h]

private theorem retain_selection_of_not_mem (n : Normalizer) {t : Table}
    (h : "PointsPG" ∉ t.headers) :
    n.retain t.selection = .error (.missingColumns [pointsColumn]) := by
  have hnone : t.selection.lookup? (t.selectionRow []) pointsColumn = none := by
    rw [Table.lookup?_selection, Table.sourceCell?_pointsColumn, Table.lookup?_eq_none_iff]
    exact h
  rw [retain, Option.map_eq_none_iff.mp hnone]

private theorem retain_selection_of_mem (n : Normalizer) {t : Table} (h : "PointsPG" ∈ t.headers) :
    n.retain t.selection = (do
      let _ ← t.rows.zipIdx.mapM fun row ↦ checkPoints (t.points row.1) row.2
      return { t.selection with rows := (n.retained t).map t.selectionRow }) := by
  have hlookup : ∀ row, t.selection.lookup? (t.selectionRow row) pointsColumn =
      t.lookup? row "PointsPG" := by
    intro row
    rw [Table.lookup?_selection, Table.sourceCell?_pointsColumn]
  obtain ⟨column, hcolumn⟩ : ∃ column, t.selection.columnIndex? pointsColumn = some column := by
    refine Option.ne_none_iff_exists'.mp fun hn ↦ ?_
    have hnone := hlookup []
    rw [Table.lookup?, hn, Option.map_none, eq_comm, Table.lookup?_eq_none_iff] at hnone
    exact hnone h
  have hcell : ∀ row,
      Json.numberCell (Table.cellAt (t.selectionRow row) column) = t.points row := by
    intro row
    rw [Table.points, ← hlookup, Table.lookup?, hcolumn]
    rfl
  -- Filtering the selected rows is filtering the rows of the input by the same points.
  have haccepts : ((fun row ↦ n.accepts (Json.numberCell (Table.cellAt row column))) ∘
      t.selectionRow) = n.retains t := by
    funext row
    rw [Function.comp_apply, hcell, retains]
  rw [retain, hcolumn]
  dsimp only
  rw [retainFrom_eq, Table.rows_selection, List.filter_map, haccepts, List.zipIdx_map,
    List.mapM_map]
  simp only [Function.comp_def, Prod.map_fst, Prod.map_snd, id_eq, hcell]
  cases t.rows.zipIdx.mapM fun row ↦ checkPoints (t.points row.1) row.2 <;> rfl

/-- **Normalizing is reading row by row.** On every table the stages of a normalizer come to reading
the source cells of each row. -/
theorem normalize_eq (n : Normalizer) (t : Table) :
    n.normalize t = n.rowByRow t t.sourceCell? := by
  rw [normalize, rowByRow, Table.withIdentifier_eq]
  by_cases hid : t.HasIdentifier
  · rw [if_pos hid, if_neg (not_not_intro hid), ok_bind, select_eq n hid]
    by_cases hstrict : n.strict ∧ t.absentColumns ≠ []
    · rw [if_pos hstrict, if_pos hstrict, error_bind]
    · rw [if_neg hstrict, if_neg hstrict, ok_bind, ← Table.selection]
      by_cases hpoints : "PointsPG" ∈ t.headers
      · rw [if_neg (not_not_intro hpoints), retain_selection_of_mem n hpoints, bind_assoc]
        have hcells : ∀ row, t.selection.lookup? (t.selectionRow row) = t.sourceCell? row :=
          fun row ↦ funext fun column ↦ Table.lookup?_selection t row column
        simp only [pure_bind, Table.readRows_map, hcells]
      · rw [if_pos hpoints, retain_selection_of_not_mem n hpoints, error_bind]
  · rw [if_neg hid, if_pos hid, error_bind]

end Normalizer

end LeagueStandings
