import LeagueStandings.Standings.Normalizer
import LeagueStandings.StandingsRequest
import LeagueStandings.FileTree

/-!
# Configuration

Where the standings come from, how they are made into rows and where the files go. Every setting
has a default.
-/

namespace LeagueStandings

/-- Where the standings come from. -/
structure SourceSettings where
  baseUrl : String := "https://stats.nba.com/stats"
  leagueId : String := "00"
  seasonType : String := "Regular Season"
  /-- How long to wait for a reply; below `2 ^ 64`. -/
  timeoutSeconds : Nat := 30
deriving DecidableEq, Repr

/-- The request that the settings make. -/
def SourceSettings.request (s : SourceSettings) : StandingsRequest :=
  ⟨s.baseUrl, s.leagueId, s.seasonType⟩

/-- How the standings are made into rows. -/
structure StandingsSettings where
  /-- A season token, or `current` for the season in progress. -/
  season : String := "2025-26"
  strictColumns : Bool := false
  lowestPoints : Binary64 := PointsRange.usual.lowest
  highestPoints : Binary64 := PointsRange.usual.highest
deriving DecidableEq, Repr

/-- The normalizer that the settings describe. -/
def StandingsSettings.normalizer (s : StandingsSettings) : Normalizer where
  strict := s.strictColumns
  range := ⟨s.lowestPoints, s.highestPoints⟩

/-- Where the files go. -/
structure OutputSettings where
  directory : String := "."
  teamsFile : String := "nba_teams.json"
  standingsFile : String := "nba_team_stats.json"
deriving DecidableEq, Repr

namespace OutputSettings

/-- The path of the team list. -/
def teamsPath (s : OutputSettings) : String := FileTree.join s.directory s.teamsFile

/-- The path of the standings. -/
def standingsPath (s : OutputSettings) : String := FileTree.join s.directory s.standingsFile

end OutputSettings

/-- All settings. -/
structure Configuration where
  source : SourceSettings := {}
  standings : StandingsSettings := {}
  output : OutputSettings := {}
deriving DecidableEq, Repr

namespace Configuration

/-- The configuration itself, unless its settings contradict each other: the lowest points may not
exceed the highest, and the time to wait may not be zero. -/
def validate (c : Configuration) : Except Failure Configuration :=
  if c.standings.highestPoints.lt c.standings.lowestPoints then
    .error (.configuration (.invertedRange c.standings.lowestPoints c.standings.highestPoints))
  else if c.source.timeoutSeconds = 0 then .error (.configuration .zeroTimeout)
  else .ok c

end Configuration

end LeagueStandings
