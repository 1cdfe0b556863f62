import LeagueStandings.Run.Source

/-!
# The standings run

The first table that a source has for a season is normalized and the rows are written to the
standings file. Nothing is written unless the whole table could be read.
-/

namespace LeagueStandings.Run

/-- City and name of a row for a report; a missing part is a question mark. -/
def rowTitle (row : StandingsRow) : String :=
  row.city.toOption.getD "?" ++ " " ++ row.name.toOption.getD "?"

/-- The first of the tables. -/
def firstTable : List Table → Run Table
  | [] => throw (.sourceUnavailable .noTables)
  | table :: _ => pure table

/-- Normalizes a table and reports on it. -/
def normalizeTable (normalizer : Normalizer) (table : Table) : Run (List StandingsRow) := do
  let dropped := normalizer.dropped table
  unless dropped = [] do
    warn ("Standings columns unavailable, dropping: " ++ commaSeparated dropped)
  let rows ← ofExcept (normalizer.normalize table)
  info ("Normalized standings table '" ++ table.name ++ "'")
  return rows

/-- Writes the standings. -/
def saveStandings (output : OutputSettings) : List StandingsRow → Run Unit :=
  save output.standingsPath StandingsRow.listToJson "standings rows"

/-- Fetches a season's standings from a source. -/
def fetchStandings (source : StatsSource) (normalizer : Normalizer) (output : OutputSettings)
    (season : Season) : Run (List StandingsRow) := do
  info ("Fetching NBA standings for " ++ season.token)
  let table ← firstTable (← source.tables season)
  info ("Columns available: " ++ commaSeparated table.headers)
  let rows ← normalizeTable normalizer table
  info ("Retrieved " ++ Text.integer rows.length ++ " NBA teams for " ++ season.token)
  (rows.take 5).forM fun row ↦ info (rowTitle row)
  saveStandings output rows
  return rows

end LeagueStandings.Run
