import LeagueStandings.CommandLine
import Std.Time.Zoned

/-!
# The programs' outer layer

A program looks at the files that it may read or write, does its work on that view, and then makes
the file system agree with what the view has become. The name under which it was started says which
of the programs it is.
-/

namespace LeagueStandings

/-- The path of a location. -/
def Location.path (location : Location) : String := "/" ++ "/".intercalate location

/-- Adds to the tree what the file system has at a location. -/
def FileTree.look (files : FileTree) (location : Location) : IO FileTree := do
  let place := (← IO.currentDir) / location.path
  if ← place.isDir then return files.set location .directory
  else if ← place.pathExists then
    return files.set location (.file (← IO.FS.readBinFile place).data.toList)
  else return files

/-- Adds to the tree whatever stands on the way of a path. -/
def FileTree.lookAlong (files : FileTree) (path : String) : IO FileTree := do
  let mut files := files
  let mut location := files.start path
  for name in FileTree.properNames path do
    location := if name = ".." then location.dropLast else location ++ [name]
    if location ≠ [] then files ← files.look location
  return files

/-- Makes the file system agree with the tree, where the tree has changed. -/
def FileTree.store (before after : FileTree) : IO Unit := do
  for (location, entry) in after.entries.reverse do
    let place := (← IO.currentDir) / location.path
    if before.at? location ≠ some entry then
      match entry with
      | .directory => IO.FS.createDir place
      | .file contents => IO.FS.writeBinFile place ⟨contents.toArray⟩

/-- The tree of all that a program may read or write. -/
def Invocation.lookAround (invocation : Invocation) : IO FileTree := do
  let here := FileTree.properNames (toString (← IO.currentDir))
  let files ← (FileTree.workingIn here).lookAlong logDirectory
  match invocation with
  | .command configFile _ =>
    let files ← files.lookAlong (configFile.getD Configuration.defaultFile)
    match Configuration.load files configFile with
    | .error _ => return files
    | .ok c => (← files.lookAlong c.output.teamsPath).lookAlong c.output.standingsPath
  | _ => return files

/-- Adds events to the log of a day. -/
def Event.log (today : Date) (events : List Event) : IO Unit := do
  let two := fun n : Nat ↦ (if n < 10 then "0" else "") ++ Text.integer n
  let name := "sports_stats.log." ++ "-".intercalate
    [Text.integer today.year, two today.month, two today.day]
  let log ← IO.FS.Handle.mk ((← IO.currentDir) / logDirectory / name) .append
  for event in events do
    log.putStrLn event.message

/-- Today's date. -/
def Date.today : IO Date := do
  let today ← Std.Time.PlainDate.now
  match Date.ofNumbers? today.year today.month.val.toNat today.day.val.toNat with
  | some date => return date
  | none => throw (IO.userError "the calendar has no such day")

/-- The program of a name. -/
def Program.ofName (name : String) : Program :=
  if name.endsWith "import-teams" then .importTeams
  else if name.endsWith "fetch-standings" then .fetchStandings
  else .main

end LeagueStandings

open LeagueStandings in
/-- Runs the program with its arguments; what it reports goes to its log. -/
def main (arguments : List String) : IO UInt32 := do
  let invocation := (Program.ofName (toString (← IO.appPath))).invocation arguments
  let files ← invocation.lookAround
  let today ← Date.today
  let (ending, world) := invocation.perform today { files }
  files.store world.files
  IO.print world.printed
  if ending.code ≠ Ending.noLog.code then Event.log today world.events
  match ending with
  | .noLog => IO.eprintln ("error: there is no room for the directory " ++ logDirectory)
  | .failure cause => IO.eprintln ("Error: " ++ cause.message)
  | .usageError => IO.eprintln "error: these arguments make no sense"
  | .success => pure ()
  return UInt32.ofNat ending.code
