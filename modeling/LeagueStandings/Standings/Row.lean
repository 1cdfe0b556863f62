import LeagueStandings.Json.Decoder

/-!
# Standings rows

One team's line in the standings, as it is written to the standings file. A row says of each
optional column whether the column was absent, or its cell null, or which value it had: an absent
column leaves no key in the file, a null cell leaves a null.

Reading a file keeps less: a null reads as absent.
-/

namespace LeagueStandings

/-- What a row knows of an optional column. -/
inductive Entry (α : Type)
  | absent
  | null
  | value (a : α)
deriving DecidableEq, Repr

namespace Entry

variable {α : Type}

/-- The value, if there is one. -/
def toOption : Entry α → Option α
  | value a => some a
  | _ => none

/-- The entry of a column that is there, given its cell. -/
def ofCell : Option α → Entry α
  | some a => value a
  | none => null

/-- The entry read from a file, where null and absence are one. -/
def ofField : Option α → Entry α
  | some a => value a
  | none => absent

/-- The field of a record, or none for an absent column. -/
def field (key : String) (write : α → Json) : Entry α → List (String × Json)
  | absent => []
  | null => [(key, .null)]
  | value a => [(key, write a)]

@[simp] theorem toOption_ofCell (cell : Option α) : (ofCell cell).toOption = cell := by
  cases cell <;> rfl

@[simp] theorem toOption_ofField (field : Option α) : (ofField field).toOption = field := by
  cases field <;> rfl

end Entry

/-- One team's line in the standings. -/
structure StandingsRow where
  /-- The identifier as the table gave it. -/
  sourceTeamId : Int64
  city : Entry String
  name : Entry String
  conference : Entry String
  division : Entry String
  wins : Entry Int64
  losses : Entry Int64
  winPct : Entry Binary64
  points : Binary64
  opponentPoints : Entry Binary64
  pointsDifference : Entry Binary64
  fullName : Entry String
  /-- The identifier that the team list knows the team by. -/
  teamId : Int64
deriving DecidableEq, Repr

namespace StandingsRow

/-- The keys of a written row, in order. -/
def keys : List String :=
  ["TEAM_ID", "team_city", "team_name", "conference", "division", "wins", "losses", "win_pct",
    "points_per_game", "opp_points_per_game", "diff_points_pg", "full_name", "team_id"]

/-- The fields of a written row. -/
def fields (row : StandingsRow) : List (String × Json) :=
  [("TEAM_ID", Json.int64 row.sourceTeamId)] ++
    row.city.field "team_city" .str ++
    row.name.field "team_name" .str ++
    row.conference.field "conference" .str ++
    row.division.field "division" .str ++
    row.wins.field "wins" .int64 ++
    row.losses.field "losses" .int64 ++
    row.winPct.field "win_pct" .binary64 ++
    [("points_per_game", Json.binary64 row.points)] ++
    row.opponentPoints.field "opp_points_per_game" .binary64 ++
    row.pointsDifference.field "diff_points_pg" .binary64 ++
    row.fullName.field "full_name" .str ++
    [("team_id", Json.int64 row.teamId)]

/-- The row as a record. -/
def toJson (row : StandingsRow) : Json := .obj row.fields

/-- The rows of a standings file. -/
def listToJson (rows : List StandingsRow) : Json := .arr (rows.map toJson)

open JsonTree in
/-- Reads a row from its fields. -/
def ofFields? (depth : Nat) (fields : List (String × JsonTree)) : Option StandingsRow := do
  let sourceTeamId ← required? int64? depth fields "TEAM_ID"
  let city ← optional? string? depth fields "team_city"
  let name ← optional? string? depth fields "team_name"
  let conference ← optional? string? depth fields "conference"
  let division ← optional? string? depth fields "division"
  let wins ← optional? int64? depth fields "wins"
  let losses ← optional? int64? depth fields "losses"
  let winPct ← optional? binary64? depth fields "win_pct"
  let points ← required? binary64? depth fields "points_per_game"
  let opponentPoints ← optional? binary64? depth fields "opp_points_per_game"
  let pointsDifference ← optional? binary64? depth fields "diff_points_pg"
  let fullName ← optional? string? depth fields "full_name"
  let teamId ← required? int64? depth fields "team_id"
  return {
    sourceTeamId
    city := .ofField city
    name := .ofField name
    conference := .ofField conference
    division := .ofField division
    wins := .ofField wins
    losses := .ofField losses
    winPct := .ofField winPct
    points
    opponentPoints := .ofField opponentPoints
    pointsDifference := .ofField pointsDifference
    fullName := .ofField fullName
    teamId }

/-- Reads a row. -/
def decoder? : JsonTree.Decoder StandingsRow := JsonTree.record? keys ofFields?

/-- Reads the rows of a standings file. -/
def listDecoder? : JsonTree.Decoder (List StandingsRow) := JsonTree.list? decoder?

end StandingsRow

end LeagueStandings
