import LeagueStandings.FileTree
import LeagueStandings.Json.Decoder
import LeagueStandings.Season

/-!
# Runs

An import, a standings run and a link read and write files, report what they do, and may ask the
statistics service for something. All this is kept in a `World`, and a run is a function on it that
may also fail. What a run did before it failed stays done.
-/

namespace LeagueStandings

/-- How much an event matters. -/
inductive Level
  | info
  | warning
deriving DecidableEq, Repr

/-- Something that a run reports. -/
structure Event where
  level : Level
  message : String
deriving DecidableEq, Repr

/-- What runs act on. -/
structure World where
  files : FileTree
  /-- The events so far, in order. -/
  events : List Event := []
  /-- The URLs that the statistics service was asked for, in order. -/
  requested : List String := []
  /-- What has been printed. -/
  printed : String := ""
deriving DecidableEq, Repr

/-- An action on the world that gives a result or fails. -/
abbrev Run := ExceptT Failure (StateM World)

namespace Run

/-- The result of a run from a world, and the world after it. -/
def exec {α : Type} (run : Run α) (world : World) : Except Failure α × World :=
  StateT.run (ExceptT.run run) world

/-- Reports an event. -/
def report (level : Level) (message : String) : Run Unit :=
  modify fun world ↦ { world with events := world.events ++ [⟨level, message⟩] }

/-- Reports progress. -/
def info (message : String) : Run Unit := report .info message

/-- Reports something doubtful. -/
def warn (message : String) : Run Unit := report .warning message

/-- Prints a text. -/
def print (text : String) : Run Unit :=
  modify fun world ↦ { world with printed := world.printed ++ text }

/-- Gives the result or fails with the failure. -/
def ofExcept {α : Type} : Except Failure α → Run α
  | .ok a => pure a
  | .error failure => throw failure

/-- Writes a value to a file as JSON, after the directories around the file have been made. -/
def writeJson (path : String) (value : Json) : Run Unit := do
  let world ← get
  let (files, result) := world.files.writeInPlace path (Utf8.encode value.pretty)
  set { world with files }
  ofExcept (result.mapError .file)

/-- Writes records to a file as JSON and reports how many there are. -/
def save {α : Type} (path : String) (toJson : List α → Json) (kind : String) (records : List α) :
    Run Unit := do
  writeJson path (toJson records)
  info ("Saved " ++ Text.integer records.length ++ " " ++ kind ++ " to " ++ path)

/-- Reads a file of JSON with a decoder. -/
def readJson {α : Type} (decoder : JsonTree.Decoder α) (path : String) : Run α := do
  let world ← get
  let bytes ← ofExcept ((world.files.read path).mapError .file)
  match JsonTree.decode? decoder bytes with
  | some a => pure a
  | none => throw .malformedJson

end Run

end LeagueStandings
