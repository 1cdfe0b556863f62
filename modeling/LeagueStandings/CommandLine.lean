import LeagueStandings.Binary64.Places
import LeagueStandings.Configuration.Reader
import LeagueStandings.Run.Import
import LeagueStandings.Run.Link
import LeagueStandings.Run.Standings

/-!
# Command lines

Three programs share the runs. The main one has a command for each run and takes a configuration
file and a season as options; the two others do one run each with the default configuration file
and take no arguments, so they ignore what they are given.

Arguments are read from left to right. An option takes its value from behind an equals sign or from
the next argument, which may then not look like an option. A program exits with 2 if its arguments
make no sense and with 1 if its run fails; what it printed until then stays printed.

Before all else a program makes the directory of its log. Where that cannot be, it stops with 101.
-/

namespace LeagueStandings

/-- What a program is told to do. -/
inductive Command
  /-- Import the teams. -/
  | teams
  /-- Fetch the standings of a season. -/
  | standings (season : Option String)
  /-- Import the teams and fetch the standings of a season. -/
  | run (season : Option String)
  /-- Link what was written. -/
  | link
  /-- Import the teams and say only how many there are. -/
  | importTeams
  /-- Fetch the standings of the configured season and say only how many rows there are. -/
  | fetchStandings
deriving DecidableEq, Repr

/-- What the arguments of a program ask for. -/
inductive Invocation
  | command (configFile : Option String) (command : Command)
  | version
  | usageError
deriving DecidableEq, Repr

namespace Invocation

/-! ## Reading arguments -/

/-- What stands behind an option that an argument begins with: the value after an equals sign, or
nothing. -/
inductive OptionMatch
  | attached (value : String)
  | bare

/-- The argument is the option, perhaps with a value behind an equals sign. -/
def matchOption? (option argument : String) : Option OptionMatch :=
  let option := option.toList
  let argument := argument.toList
  if argument = option then some .bare
  else if (option ++ ['=']).isPrefixOf argument then
    some (.attached (String.ofList (argument.drop (option.length + 1))))
  else none

/-- The value of an option and the arguments behind it. -/
def takeValue? (found : OptionMatch) (rest : List String) : Option (String × List String) :=
  match found, rest with
  | .attached value, rest => some (value, rest)
  | .bare, [] => none
  | .bare, value :: rest =>
    if value.toList.head? = some '-' ∧ value ≠ "-" then none else some (value, rest)

/-- The value of an option that is not empty. -/
def takeNonempty? (found : OptionMatch) (rest : List String) : Option (String × List String) :=
  (takeValue? found rest).filter (·.1 ≠ "")

theorem length_of_takeValue? {found : OptionMatch} {rest : List String}
    {result : String × List String} (h : takeValue? found rest = some result) :
    result.2.length ≤ rest.length := by
  unfold takeValue? at h
  split at h
  · cases h; exact Nat.le_refl _
  · cases h
  · split at h
    · cases h
    · cases h; exact Nat.le_succ _

theorem length_of_takeNonempty? {found : OptionMatch} {rest : List String}
    {result : String × List String} (h : takeNonempty? found rest = some result) :
    result.2.length ≤ rest.length := by
  unfold takeNonempty? at h
  exact length_of_takeValue? (Option.filter_eq_some_iff.mp h).1

/-- The options that stand behind a command. -/
structure CommandOptions where
  configFile : Option String := none
  season : Option String := none

/-- Reads the arguments behind a command; only some commands take a season. Each option may be given
once, and nothing may follow the mark that ends the options. -/
def commandOptions? (takesSeason : Bool) (options : CommandOptions) :
    List String → Option CommandOptions
  | [] => some options
  | argument :: rest =>
    if argument = "--" then if rest = [] then some options else none
    else match matchOption? "--config" argument with
      | some found =>
        if options.configFile.isSome then none
        else match _h : takeNonempty? found rest with
          | none => none
          | some result =>
            commandOptions? takesSeason { options with configFile := some result.1 } result.2
      | none =>
        match matchOption? "--season" argument with
        | none => none
        | some found =>
          if !takesSeason || options.season.isSome then none
          else match _h : takeValue? found rest with
            | none => none
            | some result =>
              commandOptions? takesSeason { options with season := some result.1 } result.2
termination_by arguments => arguments.length
decreasing_by
  · exact Nat.lt_succ_of_le (length_of_takeNonempty? _h)
  · exact Nat.lt_succ_of_le (length_of_takeValue? _h)

/-- The command of a name, which takes a season or not. -/
def command? (name : String) : Option (Bool × (Option String → Command)) :=
  if name = "teams" then some (false, fun _ ↦ .teams)
  else if name = "standings" then some (true, .standings)
  else if name = "run" then some (true, .run)
  else if name = "link" then some (false, fun _ ↦ .link)
  else none

/-- Reads the arguments of the main program, given the configuration file named so far. A file that
is named behind the command counts before one that is named in front of it. -/
def read (configFile : Option String) : List String → Invocation
  | [] => .usageError
  | argument :: rest =>
    if argument = "--version" ∨ ['-', 'V'].isPrefixOf argument.toList then .version
    else match matchOption? "--config" argument with
      | some found =>
        if configFile.isSome then .usageError
        else match _h : takeNonempty? found rest with
          | none => .usageError
          | some result => read (some result.1) result.2
      | none =>
        match command? argument with
        | none => .usageError
        | some (takesSeason, make) =>
          match commandOptions? takesSeason {} rest with
          | none => .usageError
          | some options => .command (options.configFile.or configFile) (make options.season)
termination_by arguments => arguments.length
decreasing_by exact Nat.lt_succ_of_le (length_of_takeNonempty? _h)

end Invocation

/-! ## Printing -/

/-- The text, filled up with blanks on its right. -/
def padRight (width : Nat) (text : String) : String :=
  text ++ String.ofList (List.replicate (width - text.length) ' ')

/-- The text, filled up with blanks on its left. -/
def padLeft (width : Nat) (text : String) : String :=
  String.ofList (List.replicate (width - text.length) ' ') ++ text

/-- A count for a report; a hyphen if it is unknown. -/
def countText : Option Int64 → String
  | some n => Text.integer n.toInt
  | none => "-"

/-- The line of a linked team. -/
def LinkedTeam.line (linked : LinkedTeam) : String :=
  "   • " ++ padRight 26 linked.name ++ " W " ++ padLeft 3 (countText linked.wins) ++ " L " ++
    padLeft 3 (countText linked.losses) ++ " PPG " ++ padLeft 6 linked.points.onePlaceText ++ "\n"

/-- The lines of a link report. -/
def LinkReport.lines (report : LinkReport) : String :=
  String.join (report.matched.map LinkedTeam.line) ++
    String.join (report.unmatched.map fun name ↦ "⚠️  No stats found for " ++ name ++ "\n") ++
    "\n🎉 Linked " ++ Text.integer report.matched.length ++ "/" ++
      Text.integer (report.matched.length + report.unmatched.length : Nat) ++ " NBA teams.\n"

/-! ## Running -/

namespace Run

/-- The season that is asked for: the one given or else the configured one. -/
def resolveSeason (c : Configuration) (season : Option String) (today : Date) : Season :=
  Season.resolve (season.getD c.standings.season) today

/-- Imports the catalogue of teams. -/
def importCatalogue (c : Configuration) : Run (List TeamRecord) :=
  importTeams (.service c.source .unconnected) c.output

/-- Fetches the standings of a season from the statistics service. -/
def fetchFromService (c : Configuration) (season : Season) : Run (List StandingsRow) :=
  fetchStandings (.service c.source .unconnected) c.standings.normalizer c.output season

/-- Says how many teams were imported. -/
def printLoaded (records : List TeamRecord) : Run Unit :=
  print ("✅ Loaded " ++ Text.integer records.length ++ " NBA teams.\n")

/-- Says how many rows a season has. -/
def printRetrieved (rows : List StandingsRow) (season : Season) : Run Unit :=
  print ("✅ Retrieved " ++ Text.integer rows.length ++ " NBA teams for " ++ season.token ++ ".\n")

end Run

open Run in
/-- Does what a command says. -/
def Command.perform (c : Configuration) (today : Date) : Command → Run Unit
  | .teams => do
    print "🚀 Fetching NBA teams...\n"
    printLoaded (← importCatalogue c)
  | .standings season => do
    let season := resolveSeason c season today
    print ("📡 Fetching NBA standings for " ++ season.token ++ "...\n")
    printRetrieved (← fetchFromService c season) season
  | .run season => do
    let season := resolveSeason c season today
    print "\n📥 Step 1: Importing teams...\n"
    let records ← importCatalogue c
    print ("\n📊 Step 2: Fetching standings for " ++ season.token ++ "...\n")
    let rows ← fetchFromService c season
    print ("✅ Wrote " ++ Text.integer records.length ++ " teams and " ++
      Text.integer rows.length ++ " standings rows\n")
  | .link => do
    let report ← linkFiles c.output
    report.unmatched.forM fun name ↦ warn ("No stats found for " ++ name)
    print report.lines
  | .importTeams => do
    printLoaded (← importCatalogue c)
  | .fetchStandings => do
    let season := resolveSeason c none today
    printRetrieved (← fetchFromService c season) season

/-- The directory in which the programs keep their log. -/
def logDirectory : String := "logs"

/-- How a program ends. -/
inductive Ending
  | success
  | usageError
  /-- The log has no place. -/
  | noLog
  | failure (cause : Failure)

/-- The number that a program exits with. -/
def Ending.code : Ending → Nat
  | success => 0
  | failure _ => 1
  | usageError => 2
  | noLog => 101

/-- Does what the arguments ask for, with the configuration in force, once the log has a place. -/
def Invocation.answer (today : Date) (world : World) : Invocation → Ending × World
  | .version => (.success, { world with printed := world.printed ++ "sports_stats 0.1.0\n" })
  | .usageError => (.usageError, world)
  | .command configFile task =>
    match Configuration.load world.files configFile with
    | .error cause => (.failure cause, world)
    | .ok c =>
      match (task.perform c today).exec world with
      | (.ok _, world) => (.success, world)
      | (.error cause, world) => (.failure cause, world)

/-- Runs a program to its end. -/
def Invocation.perform (today : Date) (world : World) (invocation : Invocation) : Ending × World :=
  let (files, made) := world.files.makePath logDirectory
  let world := { world with files }
  match made with
  | .ok _ => invocation.answer today world
  | .error _ => (.noLog, world)

/-- The programs. -/
inductive Program
  | main
  | importTeams
  | fetchStandings
deriving DecidableEq, Repr

/-- What a program makes of its arguments. -/
def Program.invocation (arguments : List String) : Program → Invocation
  | main => Invocation.read none arguments
  | importTeams => .command none .importTeams
  | fetchStandings => .command none .fetchStandings

end LeagueStandings
