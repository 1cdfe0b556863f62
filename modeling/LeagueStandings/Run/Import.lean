import LeagueStandings.Run.Source

/-!
# The team import

The franchises of a source are cut down to records and written to the team list. Nothing is written
unless the source has given them all.
-/

namespace LeagueStandings.Run

/-- Writes the team list. -/
def saveTeams (output : OutputSettings) : List TeamRecord → Run Unit :=
  save output.teamsPath TeamRecord.listToJson "teams"

/-- Imports the teams of a source. -/
def importTeams (source : StatsSource) (output : OutputSettings) : Run (List TeamRecord) := do
  info "Fetching NBA teams"
  let teams ← source.teams
  let records := teams.map Team.record
  info ("Loaded " ++ Text.integer records.length ++ " NBA teams")
  saveTeams output records
  return records

end LeagueStandings.Run
