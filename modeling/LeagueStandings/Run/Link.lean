import LeagueStandings.Configuration
import LeagueStandings.LinkReport
import LeagueStandings.Run.Basic

/-!
# The link run

The written team list and the written standings are read again and linked.
-/

namespace LeagueStandings.Run

/-- Links the files that earlier runs have written. -/
def linkFiles (output : OutputSettings) : Run LinkReport := do
  let teams ← readJson TeamRecord.listDecoder? output.teamsPath
  let rows ← readJson StandingsRow.listDecoder? output.standingsPath
  info ("Linked standings to " ++ Text.integer teams.length ++ " teams")
  return link teams rows

end LeagueStandings.Run
