import LeagueStandings.Configuration
import LeagueStandings.Run.Basic
import LeagueStandings.StatsReply
import LeagueStandings.Team.Catalogue

/-!
# Sources of statistics

A source lists the franchises and answers for the standings of a season with tables. The statistics
service is one: it is asked for a URL, over a transport, and its reply is decoded.
-/

namespace LeagueStandings

/-- Where teams and standings come from. -/
structure StatsSource where
  teams : Run (List Team)
  /-- All the tables of a season's standings; only the first one is used. -/
  tables : Season → Run (List Table)

/-- What comes of asking for a URL. -/
inductive Exchange
  /-- The transport failed, in its own words. -/
  | failed (words : String)
  | reply (status : Nat) (body : List UInt8)
deriving DecidableEq, Repr

/-- A way to ask for URLs. -/
abbrev Transport := Url → Run Exchange

namespace Transport

/-- The transport that answers whatever is asked with one exchange, and notes what was asked. -/
def answering (exchange : Exchange) : Transport := fun url ↦ do
  modify fun world ↦ { world with requested := world.requested ++ [url.toText] }
  return exchange

/-- How long a URL may be that is asked for. -/
def longestUrl : Nat := 65534

/-- A request for the URL can be made: its scheme is one of the web's two, no quote, backtick or
brace stands in its host, and without its credentials it is not too long. -/
def canAsk (url : Url) : Bool :=
  let host := (url.authority.map (·.host.chars)).getD []
  (url.scheme == "http".toList || url.scheme == "https".toList) &&
    !host.any ("\"\x60\x7b\x7d".toList.contains ·) &&
    url.withoutCredentials.chars.length ≤ longestUrl

/-- The transport of a machine without a network. Some URLs cannot be asked for at all, and asking
for the others does not get through. -/
def unconnected : Transport := fun url ↦ do
  Run.info ("HTTP GET request to: " ++ url.toText)
  return .failed (if canAsk url then "error sending request" else "builder error")

end Transport

namespace StatsSource

/-- The source that has nothing to say, for a reason. -/
def failing (words : String) : StatsSource where
  teams := throw (.sourceUnavailable (.transport words))
  tables _ := throw (.sourceUnavailable (.transport words))

/-- The source that lists the given franchises. -/
def ofTeams (teams : List Team) : StatsSource where
  teams := pure teams
  tables _ := pure []

/-- The source that answers with the given tables for every season. -/
def ofTables (tables : List Table) : StatsSource where
  teams := pure []
  tables _ := pure tables

/-- The tables in what came of a request. -/
def tablesOfExchange : Exchange → Except Failure (List Table)
  | .failed words => .error (.sourceUnavailable (.transport words))
  | .reply status body =>
    if 200 ≤ status ∧ status < 300 then
      match StatsReply.tables? body with
      | none => .error (.sourceUnavailable .malformedReply)
      | some [] => .error (.sourceUnavailable .noResultSets)
      | some tables => .ok tables
    else .error (.sourceUnavailable (.status status))

/-- The tables that the statistics service has for a season. -/
def serviceTables (request : StandingsRequest) (transport : Transport) (season : Season) :
    Run (List Table) := do
  let url ← Run.ofExcept
    ((request.url? season).mapError fun e ↦ .configuration (.invalidBaseUrl request.baseUrl e))
  Run.info ("Fetching standings from " ++ url.toText)
  let exchange ← transport url
  Run.ofExcept (tablesOfExchange exchange)

/-- The statistics service, with the catalogue of franchises. -/
def service (settings : SourceSettings) (transport : Transport) : StatsSource where
  teams := pure Team.catalogue
  tables := serviceTables settings.request transport

end StatsSource

end LeagueStandings
