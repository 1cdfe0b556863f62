import LeagueStandings.Configuration.Reader

/-!
# One setting at a time

A configuration is a record of records, and so is a file for it. Here both are taken apart into
single settings. `Setting` names them. A configuration has a value for each of them (`Setting.get`)
and is nothing but these values (`ext_get`); so it can be changed setting by setting (`override`). A
document may hold a value for each (`Setting.HeldIn`), whatever else is in it, and gives some of the
settings (`Gives`).

Fields are found by membership here, and not by a lookup, so that nothing depends on an order.
-/

namespace LeagueStandings

/-! ## Settings -/

/-- The groups that settings come in. A file has a table for each. -/
inductive SettingGroup
  | source
  | standings
  | output

/-- The key of a group's table. -/
def SettingGroup.name : SettingGroup → String
  | source => "source"
  | standings => "standings"
  | output => "output"

/-- The keys of the settings of a group, in order. -/
def SettingGroup.keys : SettingGroup → List String
  | source => ["base_url", "league_id", "season_type", "timeout_seconds"]
  | standings => ["season", "strict_columns", "min_points_per_game", "max_points_per_game"]
  | output => ["dir", "teams_file", "standings_file"]

/-- What a setting can be. -/
inductive SettingKind
  | text
  | switch
  | count
  | number

/-- The values of a kind. -/
abbrev SettingKind.Value : SettingKind → Type
  | text => String
  | switch => Bool
  | count => Nat
  | number => Binary64

/-- The settings of a configuration. -/
inductive Setting
  | baseUrl
  | leagueId
  | seasonType
  | timeoutSeconds
  | season
  | strictColumns
  | lowestPoints
  | highestPoints
  | directory
  | teamsFile
  | standingsFile

namespace Setting

/-- The group that a setting belongs to. -/
def group : Setting → SettingGroup
  | baseUrl | leagueId | seasonType | timeoutSeconds => .source
  | season | strictColumns | lowestPoints | highestPoints => .standings
  | directory | teamsFile | standingsFile => .output

/-- The key of a setting in the table of its group. -/
def key : Setting → String
  | baseUrl => "base_url"
  | leagueId => "league_id"
  | seasonType => "season_type"
  | timeoutSeconds => "timeout_seconds"
  | season => "season"
  | strictColumns => "strict_columns"
  | lowestPoints => "min_points_per_game"
  | highestPoints => "max_points_per_game"
  | directory => "dir"
  | teamsFile => "teams_file"
  | standingsFile => "standings_file"

/-- What a setting can be. -/
abbrev kind : Setting → SettingKind
  | timeoutSeconds => .count
  | strictColumns => .switch
  | lowestPoints | highestPoints => .number
  | baseUrl | leagueId | seasonType | season | directory | teamsFile | standingsFile => .text

/-- The value of a setting in a configuration. -/
def get (c : Configuration) : (s : Setting) → s.kind.Value
  | baseUrl => c.source.baseUrl
  | leagueId => c.source.leagueId
  | seasonType => c.source.seasonType
  | timeoutSeconds => c.source.timeoutSeconds
  | season => c.standings.season
  | strictColumns => c.standings.strictColumns
  | lowestPoints => c.standings.lowestPoints
  | highestPoints => c.standings.highestPoints
  | directory => c.output.directory
  | teamsFile => c.output.teamsFile
  | standingsFile => c.output.standingsFile

end Setting

/-- Values for some of the settings. -/
abbrev GivenSettings := (s : Setting) → Option s.kind.Value

namespace Configuration

/-- The configuration with the given values. -/
def ofValues (value : (s : Setting) → s.kind.Value) : Configuration where
  source := {
    baseUrl := value .baseUrl
    leagueId := value .leagueId
    seasonType := value .seasonType
    timeoutSeconds := value .timeoutSeconds }
  standings := {
    season := value .season
    strictColumns := value .strictColumns
    lowestPoints := value .lowestPoints
    highestPoints := value .highestPoints }
  output := {
    directory := value .directory
    teamsFile := value .teamsFile
    standingsFile := value .standingsFile }

@[simp] theorem get_ofValues (value : (s : Setting) → s.kind.Value) (s : Setting) :
    s.get (ofValues value) = value s := by
  cases s <;> rfl

/-- A configuration has nothing besides its settings. -/
theorem ext_get {c d : Configuration} (h : ∀ s : Setting, s.get c = s.get d) : c = d :=
  congrArg ofValues (funext h)

/-- The configuration with the given settings replaced, each by its own value. -/
def override (c : Configuration) (given : GivenSettings) : Configuration :=
  ofValues fun s ↦ (given s).getD (s.get c)

@[simp] theorem get_override (c : Configuration) (given : GivenSettings) (s : Setting) :
    s.get (c.override given) = (given s).getD (s.get c) :=
  get_ofValues _ s

end Configuration

/-! ## What a document holds -/

/-- The value is of the kind and stands for a value of it. An integer stands for a number as well,
and only one that is not negative for a count. -/
inductive SettingKind.Denotes : (kind : SettingKind) → Toml → kind.Value → Prop
  | text (s : String) : Denotes .text (.string s) s
  | switch (b : Bool) : Denotes .switch (.boolean b) b
  | count (n : Int64) (h : 0 ≤ n.toInt) : Denotes .count (.integer n) n.toInt.toNat
  | number (x : Binary64) : Denotes .number (.float x) x
  | whole (n : Int64) : Denotes .number (.integer n) (.ofInt n.toInt)

/-- The value stands in the document, under the key of the setting in its group. The group is a
table or, with values in the order of its keys, an array. -/
def Setting.HeldIn (s : Setting) (document : List (String × Toml)) (v : Toml) : Prop :=
  ∃ toml fields, (s.group.name, toml) ∈ document ∧ toml.settings? s.group.keys = some fields ∧
    (s.key, v) ∈ fields

/-- The document gives values to some settings and holds nothing for the others. Whatever else there
is in it, in which order, does not matter. -/
structure Gives (document : List (String × Toml)) (given : GivenSettings) : Prop where
  /-- What has the name of a group is one. -/
  groups : ∀ (g : SettingGroup) (toml : Toml), (g.name, toml) ∈ document →
    (toml.settings? g.keys).isSome = true
  held : ∀ (s : Setting) (x : s.kind.Value), given s = some x →
    ∃ v, s.HeldIn document v ∧ s.kind.Denotes v x
  lacking : ∀ s : Setting, given s = none → ∀ v, ¬ s.HeldIn document v

end LeagueStandings
