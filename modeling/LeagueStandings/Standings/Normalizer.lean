import LeagueStandings.Failure
import LeagueStandings.Standings.Row
import LeagueStandings.Table

/-!
# From tables to standings rows

A standings table is made into rows in four steps: its identifier column gets one spelling, the
wanted columns are selected and renamed, the rows outside the range of points per game are dropped,
and the cells of the rest are read. The range is checked before any other cell is read, so the
cells of a dropped row are never refused.
-/

namespace LeagueStandings

/-- The identifier column as rows have it. -/
def teamIdColumn : String := "TEAM_ID"

/-- The other spelling of the identifier column, which wins if a table has both. -/
def teamIdAlias : String := "TeamID"

/-- The column of points per game. -/
def pointsColumn : String := "points_per_game"

/-- The columns that rows are made from, in order. -/
def standingsColumns : List String :=
  [teamIdColumn, "TeamCity", "TeamName", "Conference", "Division", "WINS", "LOSSES", "WinPCT",
    "PointsPG", "OppPointsPG", "DiffPointsPG"]

/-- The names that the columns get. The identifier keeps its own. -/
def standingsRenames : List (String × String) :=
  [("TeamCity", "team_city"), ("TeamName", "team_name"), ("Conference", "conference"),
    ("Division", "division"), ("WINS", "wins"), ("LOSSES", "losses"), ("WinPCT", "win_pct"),
    ("PointsPG", pointsColumn), ("OppPointsPG", "opp_points_per_game"),
    ("DiffPointsPG", "diff_points_pg")]

namespace Table

/-- The table with its identifier column under one name. -/
def withIdentifier (t : Table) : Except Failure Table :=
  if t.hasColumn teamIdAlias then .ok (t.renameColumn teamIdAlias teamIdColumn)
  else if t.hasColumn teamIdColumn then .ok t
  else .error (.unidentified t.name t.headers)

/-- The row's cell in the first column of the given name, read by `read`; a short row reads as
null. -/
def readEntry {α : Type} (t : Table) (row : List Json) (index : Nat) (column : String)
    (read : Json → Except CellRefusal (Option α)) : Except Failure (Entry α) :=
  match t.columnIndex? column with
  | none => .ok .absent
  | some i =>
    match read (cellAt row i) with
    | .ok cell => .ok (.ofCell cell)
    | .error refusal => .error (.invalidCell column index (.refused refusal))

/-- The row's cell in a column that must be there and have a value. -/
def readValue {α : Type} (t : Table) (row : List Json) (index : Nat) (column : String)
    (read : Json → Except CellRefusal (Option α)) : Except Failure α := do
  match ← t.readEntry row index column read with
  | .absent => .error (.missingColumns [column])
  | .null => .error (.invalidCell column index .null)
  | .value a => .ok a

end Table

/-- City and name, joined by a blank. It is null if either is null, and absent if either column is
absent. -/
def fullName : Entry String → Entry String → Entry String
  | .absent, _ => .absent
  | _, .absent => .absent
  | .value city, .value name => .value (city ++ " " ++ name)
  | _, _ => .null

namespace Table

/-- The standings row that a row of the table says. -/
def readRow (t : Table) (row : List Json) (index : Nat) : Except Failure StandingsRow := do
  let id ← t.readValue row index teamIdColumn Json.integerCell
  let city ← t.readEntry row index "team_city" Json.textCell
  let name ← t.readEntry row index "team_name" Json.textCell
  let conference ← t.readEntry row index "conference" Json.textCell
  let division ← t.readEntry row index "division" Json.textCell
  let wins ← t.readEntry row index "wins" Json.integerCell
  let losses ← t.readEntry row index "losses" Json.integerCell
  let winPct ← t.readEntry row index "win_pct" Json.numberCell
  let points ← t.readValue row index pointsColumn Json.numberCell
  let opponentPoints ← t.readEntry row index "opp_points_per_game" Json.numberCell
  let pointsDifference ← t.readEntry row index "diff_points_pg" Json.numberCell
  return {
    sourceTeamId := id
    city, name, conference, division, wins, losses, winPct, points, opponentPoints
    pointsDifference
    fullName := fullName city name
    teamId := id }

/-- The standings rows that the table says, its rows being counted from `index`. -/
def readRowsFrom (t : Table) (index : Nat) : List (List Json) → Except Failure (List StandingsRow)
  | [] => .ok []
  | row :: rest => do
    let first ← t.readRow row index
    let rest ← t.readRowsFrom (index + 1) rest
    return first :: rest

/-- The standings rows that the table says. -/
def readRows (t : Table) : Except Failure (List StandingsRow) := t.readRowsFrom 0 t.rows

end Table

/-- A closed range of numbers. -/
structure PointsRange where
  lowest : Binary64
  highest : Binary64
deriving DecidableEq, Repr

namespace PointsRange

/-- The number lies in the range; NaN lies in none, and a range with a NaN bound is empty. -/
def contains (range : PointsRange) (x : Binary64) : Bool :=
  range.lowest.le x && x.le range.highest

/-- The points per game that a team usually has. -/
def usual : PointsRange := ⟨.ofInt 80, .ofInt 140⟩

end PointsRange

/-- How standings tables are made into rows. -/
structure Normalizer where
  /-- A wanted column that is missing is a failure. -/
  strict : Bool := false
  /-- The points per game of the rows that are kept. -/
  range : PointsRange := .usual
deriving DecidableEq, Repr

namespace Normalizer

/-- The wanted columns of the table, unless strictness forbids to do without the missing ones. -/
def select (n : Normalizer) (t : Table) : Except Failure Table :=
  let missing := t.missing standingsColumns
  if n.strict ∧ missing ≠ [] then .error (.missingColumns missing)
  else .ok (t.project (t.available standingsColumns))

/-- The rows whose points, in the given column, lie in the range; rows are counted from `index`. -/
def retainFrom (n : Normalizer) (column index : Nat) :
    List (List Json) → Except Failure (List (List Json))
  | [] => .ok []
  | row :: rest =>
    match Json.numberCell (Table.cellAt row column) with
    | .error refusal => .error (.invalidCell pointsColumn index (.refused refusal))
    | .ok points => do
      let kept ← n.retainFrom column (index + 1) rest
      return if points.any n.range.contains then row :: kept else kept

/-- The table without the rows whose points are null or outside the range. -/
def retain (n : Normalizer) (t : Table) : Except Failure Table :=
  match t.columnIndex? pointsColumn with
  | none => .error (.missingColumns [pointsColumn])
  | some column => do
    let rows ← n.retainFrom column 0 t.rows
    return { t with rows }

/-- The standings rows of a table. -/
def normalize (n : Normalizer) (t : Table) : Except Failure (List StandingsRow) := do
  let identified ← t.withIdentifier
  let selected ← n.select identified
  let retained ← n.retain (selected.renameColumns standingsRenames)
  retained.readRows

/-- The wanted columns that the rows of a table have to do without. Nothing is dropped when the
selection fails. -/
def dropped (n : Normalizer) (t : Table) : List String :=
  match t.withIdentifier with
  | .ok identified => if n.strict then [] else identified.missing standingsColumns
  | .error _ => []

end Normalizer

end LeagueStandings
