import LeagueStandings.Configuration
import LeagueStandings.Run.Basic
import LeagueStandings.Toml.Parser

/-!
# Reading a configuration

A configuration file is a TOML document with a table for each group of settings. Whatever it does
not mention keeps its default, and what it mentions beyond the settings does not matter. A table may
also be written as an array of its settings in their order. A number may be written as an integer,
but not an integer as a number.
-/

namespace LeagueStandings

namespace Toml

/-- The fields of a value that stands for settings with the given keys. -/
def settings? (keys : List String) : Toml → Option (List (String × Toml))
  | table fields => some fields
  | array items => some (keys.zip items)
  | dateTime => some []
  | _ => none

/-- A text. -/
def string? : Toml → Option String
  | string s => some s
  | _ => none

/-- Yes or no. -/
def boolean? : Toml → Option Bool
  | boolean b => some b
  | _ => none

/-- An integer that is not negative. -/
def natural? : Toml → Option Nat
  | integer n => if 0 ≤ n.toInt then some n.toInt.toNat else none
  | _ => none

/-- A number, possibly written as an integer. -/
def number? : Toml → Option Binary64
  | float x => some x
  | integer n => some (.ofInt n.toInt)
  | _ => none

/-- The setting under a key; without the key it keeps the value that it has. -/
def setting? {α : Type} (read : Toml → Option α) (fields : List (String × Toml)) (key : String)
    (value : α) : Option α :=
  match fields.lookup key with
  | none => some value
  | some toml => read toml

end Toml

namespace SourceSettings

/-- The settings in a table, and the defaults for those that it lacks. -/
def ofToml? (toml : Toml) : Option SourceSettings := do
  let fields ← toml.settings? ["base_url", "league_id", "season_type", "timeout_seconds"]
  let default : SourceSettings := {}
  return {
    baseUrl := ← Toml.setting? Toml.string? fields "base_url" default.baseUrl
    leagueId := ← Toml.setting? Toml.string? fields "league_id" default.leagueId
    seasonType := ← Toml.setting? Toml.string? fields "season_type" default.seasonType
    timeoutSeconds :=
      ← Toml.setting? Toml.natural? fields "timeout_seconds" default.timeoutSeconds }

end SourceSettings

namespace StandingsSettings

/-- The settings in a table, and the defaults for those that it lacks. -/
def ofToml? (toml : Toml) : Option StandingsSettings := do
  let fields ← toml.settings?
    ["season", "strict_columns", "min_points_per_game", "max_points_per_game"]
  let default : StandingsSettings := {}
  return {
    season := ← Toml.setting? Toml.string? fields "season" default.season
    strictColumns := ← Toml.setting? Toml.boolean? fields "strict_columns" default.strictColumns
    lowestPoints := ← Toml.setting? Toml.number? fields "min_points_per_game" default.lowestPoints
    highestPoints :=
      ← Toml.setting? Toml.number? fields "max_points_per_game" default.highestPoints }

end StandingsSettings

namespace OutputSettings

/-- The settings in a table, and the defaults for those that it lacks. -/
def ofToml? (toml : Toml) : Option OutputSettings := do
  let fields ← toml.settings? ["dir", "teams_file", "standings_file"]
  let default : OutputSettings := {}
  return {
    directory := ← Toml.setting? Toml.string? fields "dir" default.directory
    teamsFile := ← Toml.setting? Toml.string? fields "teams_file" default.teamsFile
    standingsFile := ← Toml.setting? Toml.string? fields "standings_file" default.standingsFile }

end OutputSettings

namespace Configuration

/-- The configuration in a document, before it is validated. -/
def ofToml? (document : List (String × Toml)) : Option Configuration := do
  let default : Configuration := {}
  return {
    source := ← Toml.setting? SourceSettings.ofToml? document "source" default.source
    standings := ← Toml.setting? StandingsSettings.ofToml? document "standings" default.standings
    output := ← Toml.setting? OutputSettings.ofToml? document "output" default.output }

/-- The configuration in a text. -/
def ofText? (text : String) : Option Configuration :=
  (TomlReader.document? text).bind ofToml?

/-- The configuration file that is read if none is named. -/
def defaultFile : String := "sports_stats.toml"

/-- The text of a file. -/
def readText (files : FileTree) (path : String) : Except FileError String := do
  match Utf8.decode? (← files.read path) with
  | some text => .ok text
  | none => .error .notText

/-- The configuration in a file, before it is validated. -/
def ofFile (files : FileTree) (path : String) : Except Failure Configuration := do
  let text ← (readText files path).mapError fun e ↦ .configuration (.unreadable path e)
  match ofText? text with
  | some c => .ok c
  | none => .error .malformedToml

/-- The configuration in force: the one in the named file, which must be there, or else the one in
the default file, if that is there, or else the defaults. -/
def load (files : FileTree) (path : Option String) : Except Failure Configuration := do
  let c ←
    match path with
    | some path => ofFile files path
    | none => if (files.find? defaultFile).isSome then ofFile files defaultFile else .ok {}
  c.validate

end Configuration

end LeagueStandings
