import LeagueStandings.Table.Cell

/-!
# Failures

Everything that can stop an import, a standings run or a link, by its cause. The wording of a
failure is in `Failure.message`.
-/

namespace LeagueStandings

/-- Why a file operation failed. -/
inductive FileError
  | notFound
  | alreadyExists
  | notADirectory
  | isADirectory
  | nameTooLong
  | nulInPath
  | notText
deriving DecidableEq, Repr

/-- The words for a failed file operation, for the most part the operating system's. -/
def FileError.message : FileError → String
  | notFound => "No such file or directory (os error 2)"
  | alreadyExists => "File exists (os error 17)"
  | notADirectory => "Not a directory (os error 20)"
  | isADirectory => "Is a directory (os error 21)"
  | nameTooLong => "File name too long (os error 36)"
  | nulInPath => "file name contained an unexpected NUL byte"
  | notText => "stream did not contain valid UTF-8"

/-- Why a text is not a URL. -/
inductive UrlError
  | relativeWithoutBase
  | emptyHost
  | invalidPortNumber
  | invalidIpv4
  | invalidIpv6
  | invalidDomain
  | invalidHostCharacter
deriving DecidableEq, Repr

/-- The words for a text that is not a URL. -/
def UrlError.message : UrlError → String
  | relativeWithoutBase => "relative URL without a base"
  | emptyHost => "empty host"
  | invalidPortNumber => "invalid port number"
  | invalidIpv4 => "invalid IPv4 address"
  | invalidIpv6 => "invalid IPv6 address"
  | invalidDomain => "invalid international domain name"
  | invalidHostCharacter => "invalid domain character"

/-- What is wrong with a configuration. -/
inductive ConfigurationFault
  | unreadable (path : String) (cause : FileError)
  | invertedRange (lowest highest : Binary64)
  | zeroTimeout
  | invalidBaseUrl (baseUrl : String) (cause : UrlError)

/-- The words for a faulty configuration. -/
def ConfigurationFault.message : ConfigurationFault → String
  | unreadable path cause => "Failed to read config file '" ++ path ++ "': " ++ cause.message
  | invertedRange lowest highest =>
    "min_points_per_game (" ++ lowest.positionalText ++
      ") is greater than max_points_per_game (" ++ highest.positionalText ++ ")"
  | zeroTimeout => "timeout_seconds must be positive"
  | invalidBaseUrl baseUrl cause => "invalid base_url '" ++ baseUrl ++ "': " ++ cause.message

/-- Why the statistics service gave no table. -/
inductive SourceFault
  /-- The transport failed, in its own words. -/
  | transport (words : String)
  | status (code : Nat)
  | malformedReply
  | noResultSets
  | noTables

/-- The path of the standings below the base URL of the statistics service. -/
def standingsEndpoint : String := "leaguestandingsv3"

/-- The words for a source that gave no table. -/
def SourceFault.message : SourceFault → String
  | transport words => words
  | status code => standingsEndpoint ++ " returned HTTP " ++ Text.integer code
  | malformedReply => "malformed stats response"
  | noResultSets => standingsEndpoint ++ " returned no result sets"
  | noTables => "standings query returned no tables"

/-- What is wrong with a cell. -/
inductive CellFault
  | refused (refusal : CellRefusal)
  | null

/-- The words for a faulty cell. -/
def CellFault.message : CellFault → String
  | refused refusal => refusal.message
  | null => "value is null"

/-- The causes for which a run stops. -/
inductive Failure
  | malformedJson
  | malformedToml
  | file (cause : FileError)
  | configuration (cause : ConfigurationFault)
  | sourceUnavailable (cause : SourceFault)
  /-- The table has no column that identifies a team. -/
  | unidentified (table : String) (headers : List String)
  | missingColumns (columns : List String)
  | invalidCell (column : String) (row : Nat) (cause : CellFault)

/-- Names in a message. -/
def commaSeparated (names : List String) : String := String.intercalate ", " names

namespace Failure

/-- The words for a failure. -/
def message : Failure → String
  | malformedJson => "JSON deserialization failed"
  | malformedToml => "TOML deserialization failed"
  | file cause => "I/O error: " ++ cause.message
  | configuration cause => "Configuration error: " ++ cause.message
  | sourceUnavailable cause => "Source unavailable: " ++ cause.message
  | unidentified table headers =>
    "Schema error: neither TeamID nor TEAM_ID present in table '" ++ table ++ "' (columns: " ++
      commaSeparated headers ++ ")"
  | missingColumns columns => "Missing required column: " ++ commaSeparated columns
  | invalidCell column row cause =>
    "Invalid value in column " ++ column ++ " at row " ++ Text.integer row ++ ": " ++ cause.message

end Failure

end LeagueStandings
