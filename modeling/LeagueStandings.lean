import LeagueStandings.Main
import LeagueStandings.Proofs.Table.Columns
import LeagueStandings.Proofs.Table.Renaming
import LeagueStandings.Proofs.Standings.Identifier
import LeagueStandings.Proofs.Except
import LeagueStandings.Proofs.Standings.Reading
import LeagueStandings.Proofs.Standings.Faults
import LeagueStandings.Proofs.Standings.Outcomes
import LeagueStandings.Proofs.Standings.Reference
import LeagueStandings.Proofs.Standings.Alias
import LeagueStandings.Proofs.Standings.RowNumbers
import LeagueStandings.Proofs.Binary64.Rounding
import LeagueStandings.Proofs.Binary64.Bounds
import LeagueStandings.Proofs.Binary64.ReadBack
import LeagueStandings.Proofs.Json.Numerals
import LeagueStandings.Proofs.Json.BestEffort
import LeagueStandings.Proofs.Json.Rereading
import LeagueStandings.Proofs.Json.Strings
import LeagueStandings.Proofs.Json.Trees
import LeagueStandings.Proofs.Json.Words
import LeagueStandings.Proofs.Json.Writing
import LeagueStandings.Proofs.Json.Decoding
import LeagueStandings.Proofs.Standings.Codec
import LeagueStandings.Proofs.FileTree
import LeagueStandings.Proofs.Run.Json
import LeagueStandings.Proofs.FileTree.Repeating
import LeagueStandings.Proofs.Team.Codec
import LeagueStandings.Proofs.Link
import LeagueStandings.Proofs.Link.Choice
import LeagueStandings.Proofs.Link.Names
import LeagueStandings.Proofs.Run.Effect
import LeagueStandings.Proofs.Run.Linking
import LeagueStandings.Proofs.Run.Sequence
import LeagueStandings.Proofs.Run.History
import LeagueStandings.Proofs.Standings.Keys
import LeagueStandings.Proofs.Table.NamedColumns
import LeagueStandings.Proofs.Json.Values
import LeagueStandings.Proofs.StatsReply
import LeagueStandings.Proofs.Run.Request
import LeagueStandings.Proofs.Run.Importing
import LeagueStandings.Proofs.Binary64.Order
import LeagueStandings.Proofs.Standings.Range
import LeagueStandings.Proofs.Standings.Narrowing
import LeagueStandings.Proofs.Configuration.Loading
import LeagueStandings.Proofs.Configuration.Accepted
import LeagueStandings.Proofs.Binary64.Integers
import LeagueStandings.Proofs.Table.Numbers
import LeagueStandings.Proofs.Standings.Integers
import LeagueStandings.Proofs.Text.Split
import LeagueStandings.Proofs.Text.Integer
import LeagueStandings.Proofs.Text.Blank
import LeagueStandings.Proofs.Text.Lowercase
import LeagueStandings.Proofs.Season
import LeagueStandings.Proofs.Url.Percent
import LeagueStandings.Proofs.Url.Form
import LeagueStandings.Proofs.Url.Parts
import LeagueStandings.Proofs.Url.Marks
import LeagueStandings.Proofs.Request.Base
import LeagueStandings.Proofs.Request.Parameters
import LeagueStandings.Proofs.Url.Paths
import LeagueStandings.Proofs.Url.Continuing
import LeagueStandings.Proofs.Url.Bare
import LeagueStandings.Proofs.Url.Domain
import LeagueStandings.Proofs.Url.Margins
import LeagueStandings.Proofs.Url.Blanks
import LeagueStandings.Proofs.Request.Endpoint
import LeagueStandings.Proofs.Lookup
import LeagueStandings.Proofs.Season.Resolving
import LeagueStandings.Proofs.Standings.Renaming
import LeagueStandings.Proofs.Toml.Document
import LeagueStandings.Proofs.Toml.Parser
import LeagueStandings.Proofs.Configuration.Settings
import LeagueStandings.Proofs.Configuration.Decoding
import LeagueStandings.Proofs.Configuration.Overriding
