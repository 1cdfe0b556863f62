import LeagueStandings.Standings.Row
import LeagueStandings.Team
import LeagueStandings.Text.Blank
import LeagueStandings.Text.Lowercase

/-!
# Linking standings to teams

Each team of the team list gets the standings row that describes it: the first row with its
identifier, or else the first row whose city and name make its name. Case and blanks around a name
do not count.
-/

namespace LeagueStandings

/-- A name as it is compared: without blanks around it and in lower case. -/
def comparableName (name : String) : String := Text.lower (Text.trim name)

namespace StandingsRow

/-- City and name of the row as they are compared; a missing part is empty. -/
def comparableName (row : StandingsRow) : String :=
  LeagueStandings.comparableName
    (row.city.toOption.getD "" ++ " " ++ row.name.toOption.getD "")

/-- The row that describes a team. -/
def find? (rows : List StandingsRow) (team : TeamRecord) : Option StandingsRow :=
  match rows.find? (·.sourceTeamId == team.id) with
  | some row => some row
  | none => rows.find? (·.comparableName == LeagueStandings.comparableName team.name)

end StandingsRow

/-- A team with the statistics of its standings row. -/
structure LinkedTeam where
  teamId : Int64
  name : String
  wins : Option Int64
  losses : Option Int64
  points : Binary64
  opponentPoints : Option Binary64
  pointsDifference : Option Binary64
deriving DecidableEq, Repr

/-- The team with the statistics of a row. -/
def LinkedTeam.of (team : TeamRecord) (row : StandingsRow) : LinkedTeam where
  teamId := team.id
  name := team.name
  wins := row.wins.toOption
  losses := row.losses.toOption
  points := row.points
  opponentPoints := row.opponentPoints.toOption
  pointsDifference := row.pointsDifference.toOption

/-- The outcome of linking: the teams with a row, and the names of the others. -/
structure LinkReport where
  matched : List LinkedTeam
  unmatched : List String
deriving DecidableEq, Repr

/-- Links every team of the list, in its order. -/
def link (teams : List TeamRecord) (rows : List StandingsRow) : LinkReport where
  matched := teams.filterMap fun team ↦ (StandingsRow.find? rows team).map (LinkedTeam.of team)
  unmatched := (teams.filter fun team ↦ (StandingsRow.find? rows team).isNone).map (·.name)

/-- What `write` makes of a value, or null. -/
def Json.ofOption {α : Type} (write : α → Json) : Option α → Json
  | none => .null
  | some a => write a

namespace LinkedTeam

/-- The linked team as JSON. -/
def toJson (linked : LinkedTeam) : Json :=
  .obj [("team_id", .int64 linked.teamId), ("name", .str linked.name),
    ("wins", .ofOption .int64 linked.wins), ("losses", .ofOption .int64 linked.losses),
    ("points_per_game", .binary64 linked.points),
    ("opp_points_per_game", .ofOption .binary64 linked.opponentPoints),
    ("diff_points_pg", .ofOption .binary64 linked.pointsDifference)]

end LinkedTeam

namespace LinkReport

/-- The report as JSON. -/
def toJson (report : LinkReport) : Json :=
  .obj [("matched", .arr (report.matched.map LinkedTeam.toJson)),
    ("unmatched", .arr (report.unmatched.map .str))]

end LinkReport

end LeagueStandings
