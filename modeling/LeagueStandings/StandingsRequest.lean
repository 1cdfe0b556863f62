import LeagueStandings.Season
import LeagueStandings.Url.Form
import LeagueStandings.Url.Parser

/-!
# Requests for standings

The statistics service is asked for the standings of a season with a URL: the path of the standings
below the base URL, with the league, the season and the kind of season as parameters.
-/

namespace LeagueStandings

/-- What the statistics service is asked, apart from the season. -/
structure StandingsRequest where
  baseUrl : String
  leagueId : String
  seasonType : String
deriving DecidableEq, Repr

namespace StandingsRequest

/-- The base URL without slashes at its end, with the path of the standings behind it. The path is
added to the text, so a query or a fragment of the base URL takes it in. -/
def endpoint (baseUrl : String) : String :=
  String.ofList (baseUrl.toList.reverse.dropWhile (· == '/')).reverse ++ "/" ++ standingsEndpoint

/-- The parameters of a request, in order. -/
def parameters (r : StandingsRequest) (season : Season) : List (String × String) :=
  [("LeagueID", r.leagueId), ("Season", season.token), ("SeasonType", r.seasonType)]

/-- The URL that asks for the standings of a season. -/
def url? (r : StandingsRequest) (season : Season) : Except UrlError Url := do
  let url ← Url.ofText? (endpoint r.baseUrl)
  return { url with query := some (Form.append (url.query.getD []) (r.parameters season)) }

end StandingsRequest

end LeagueStandings
