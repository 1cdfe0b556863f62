import LeagueStandings.Json.Decoder
import LeagueStandings.Table

/-!
# Replies of the statistics service

A reply is a JSON record with a list of result sets; a few endpoints answer with a single one
instead. A result set is a table.
-/

namespace LeagueStandings

open JsonTree

/-- Reads a result set; a missing name is empty. -/
def Table.decoder? : Decoder Table := record? ["name", "headers", "rowSet"] fun depth fields ↦ do
  let name ← defaulted? "" string? depth fields "name"
  let headers ← required? (list? string?) depth fields "headers"
  let rows ← required? (list? (list? value?)) depth fields "rowSet"
  return { name, headers, rows }

/-- The two places of a reply where tables can stand. -/
structure StatsReply where
  resultSets : List Table
  resultSet : Option Table

namespace StatsReply

/-- Reads a reply. -/
def decoder? : Decoder StatsReply := record? ["resultSets", "resultSet"] fun depth fields ↦ do
  let resultSets ← defaulted? [] (list? Table.decoder?) depth fields "resultSets"
  let resultSet ← optional? Table.decoder? depth fields "resultSet"
  return { resultSets, resultSet }

/-- The tables of a reply in its order; the single one counts only when there is no other. -/
def tables (reply : StatsReply) : List Table :=
  if reply.resultSets.isEmpty then reply.resultSet.toList else reply.resultSets

/-- The tables in the body of a reply, unless the body is malformed. -/
def tables? (body : List UInt8) : Option (List Table) := (decode? decoder? body).map tables

end StatsReply

end LeagueStandings
