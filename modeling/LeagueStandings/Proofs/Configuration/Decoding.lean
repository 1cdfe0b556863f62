import LeagueStandings.Proofs.Configuration.Settings
import LeagueStandings.Proofs.Toml.Document

/-!
# Decoding a configuration

The readers of the three groups and the reader of the document are one after the other the same: a
field is looked up under its key, read if it is there and defaulted if it is not. That is said once,
setting by setting (`Setting.IsReadFrom`), and the readers are described by it
(`ofToml?_eq_some_iff_groups`).

Defaults come at two levels. A group that is not there is read as an empty table
(`SettingGroup.tableIn`), so that only the level of single settings remains. In a document without
repeated keys a lookup finds what is held (`gives_iff_lookup`), and a configuration is decoded from
it exactly if the document gives the settings in which it differs from the default
(`ofToml?_of_gives`, `exists_gives_of_ofToml?`).
-/

namespace LeagueStandings

/-! ## Decoding -/

/-- Reads a value of a kind. -/
def SettingKind.read? : (kind : SettingKind) → Toml → Option kind.Value
  | text => Toml.string?
  | switch => Toml.boolean?
  | count => Toml.natural?
  | number => Toml.number?

theorem SettingKind.read?_eq_some_iff {kind : SettingKind} {v : Toml} {x : kind.Value} :
    kind.read? v = some x ↔ kind.Denotes v x := by
  constructor
  · intro h
    cases kind with
    | text =>
      cases v with
      | string s =>
        obtain rfl := Option.some.inj h
        exact .text s
      | _ => cases h
    | switch =>
      cases v with
      | boolean b =>
        obtain rfl := Option.some.inj h
        exact .switch b
      | _ => cases h
    | count =>
      cases v with
      | integer n =>
        change (if 0 ≤ n.toInt then some n.toInt.toNat else none) = some x at h
        split at h
        · next hn =>
          obtain rfl := Option.some.inj h
          exact .count n hn
        · cases h
      | _ => cases h
    | number =>
      cases v with
      | float y =>
        obtain rfl := Option.some.inj h
        exact .number y
      | integer n =>
        obtain rfl := Option.some.inj h
        exact .whole n
      | _ => cases h
  · intro h
    cases h with
    | text s => rfl
    | switch b => rfl
    | count n hn => exact if_pos hn
    | number x => rfl
    | whole n => rfl

/-- The value of the setting in the configuration is read from the fields of its group, or is the
default if they lack it. -/
def Setting.IsReadFrom (s : Setting) (fields : List (String × Toml)) (c : Configuration) : Prop :=
  Toml.setting? s.kind.read? fields s.key (s.get {}) = some (s.get c)

namespace Setting

variable {s : Setting} {fields : List (String × Toml)} {c : Configuration}

theorem isReadFrom_nil (s : Setting) : s.IsReadFrom [] {} := rfl

/-- What is looked up is read, and what is read replaces the default. -/
theorem isReadFrom_iff_rel : s.IsReadFrom fields c ↔
    ∃ x, Option.Rel s.kind.Denotes (fields.lookup s.key) x ∧ s.get c = x.getD (s.get {}) := by
  rw [IsReadFrom, Toml.setting?]
  cases fields.lookup s.key with
  | none =>
    constructor
    · intro h
      exact ⟨none, .none, (Option.some.inj h).symm⟩
    · rintro ⟨x, hx, h⟩
      cases hx
      rw [h, Option.getD_none]
  | some v =>
    dsimp only
    rw [SettingKind.read?_eq_some_iff]
    constructor
    · intro h
      exact ⟨some (s.get c), .some h, rfl⟩
    · rintro ⟨x, hx, h⟩
      cases hx with
      | some hdenotes =>
        rw [h]
        exact hdenotes

end Setting

/-- The settings of the group are read from the value, each for itself. -/
def SettingGroup.IsReadFrom (g : SettingGroup) (toml : Toml) (c : Configuration) : Prop :=
  ∃ fields, toml.settings? g.keys = some fields ∧
    ∀ s : Setting, s.group = g → s.IsReadFrom fields c

theorem SourceSettings.ofToml?_eq_some_iff {toml : Toml} {c : Configuration} :
    ofToml? toml = some c.source ↔ SettingGroup.source.IsReadFrom toml c := by
  obtain ⟨source, standings, output⟩ := c
  constructor
  · intro h
    obtain ⟨fields, hfields, h⟩ := Option.bind_eq_some_iff.mp h
    obtain ⟨baseUrl, hbaseUrl, h⟩ := Option.bind_eq_some_iff.mp h
    obtain ⟨leagueId, hleagueId, h⟩ := Option.bind_eq_some_iff.mp h
    obtain ⟨seasonType, hseasonType, h⟩ := Option.bind_eq_some_iff.mp h
    obtain ⟨timeoutSeconds, htimeoutSeconds, h⟩ := Option.bind_eq_some_iff.mp h
    obtain rfl := Option.some.inj h
    refine ⟨fields, hfields, fun s hs ↦ ?_⟩
    cases s with
    | baseUrl => exact hbaseUrl
    | leagueId => exact hleagueId
    | seasonType => exact hseasonType
    | timeoutSeconds => exact htimeoutSeconds
    | _ => cases hs
  · rintro ⟨fields, hfields, h⟩
    refine Option.bind_eq_some_iff.mpr ⟨fields, hfields, ?_⟩
    refine Option.bind_eq_some_iff.mpr ⟨_, h .baseUrl rfl, ?_⟩
    refine Option.bind_eq_some_iff.mpr ⟨_, h .leagueId rfl, ?_⟩
    refine Option.bind_eq_some_iff.mpr ⟨_, h .seasonType rfl, ?_⟩
    exact Option.bind_eq_some_iff.mpr ⟨_, h .timeoutSeconds rfl, rfl⟩

theorem StandingsSettings.ofToml?_eq_some_iff {toml : Toml} {c : Configuration} :
    ofToml? toml = some c.standings ↔ SettingGroup.standings.IsReadFrom toml c := by
  obtain ⟨source, standings, output⟩ := c
  constructor
  · intro h
    obtain ⟨fields, hfields, h⟩ := Option.bind_eq_some_iff.mp h
    obtain ⟨season, hseason, h⟩ := Option.bind_eq_some_iff.mp h
    obtain ⟨strictColumns, hstrictColumns, h⟩ := Option.bind_eq_some_iff.mp h
    obtain ⟨lowestPoints, hlowestPoints, h⟩ := Option.bind_eq_some_iff.mp h
    obtain ⟨highestPoints, hhighestPoints, h⟩ := Option.bind_eq_some_iff.mp h
    obtain rfl := Option.some.inj h
    refine ⟨fields, hfields, fun s hs ↦ ?_⟩
    cases s with
    | season => exact hseason
    | strictColumns => exact hstrictColumns
    | lowestPoints => exact hlowestPoints
    | highestPoints => exact hhighestPoints
    | _ => cases hs
  · rintro ⟨fields, hfields, h⟩
    refine Option.bind_eq_some_iff.mpr ⟨fields, hfields, ?_⟩
    refine Option.bind_eq_some_iff.mpr ⟨_, h .season rfl, ?_⟩
    refine Option.bind_eq_some_iff.mpr ⟨_, h .strictColumns rfl, ?_⟩
    refine Option.bind_eq_some_iff.mpr ⟨_, h .lowestPoints rfl, ?_⟩
    exact Option.bind_eq_some_iff.mpr ⟨_, h .highestPoints rfl, rfl⟩

theorem OutputSettings.ofToml?_eq_some_iff {toml : Toml} {c : Configuration} :
    ofToml? toml = some c.output ↔ SettingGroup.output.IsReadFrom toml c := by
  obtain ⟨source, standings, output⟩ := c
  constructor
  · intro h
    obtain ⟨fields, hfields, h⟩ := Option.bind_eq_some_iff.mp h
    obtain ⟨directory, hdirectory, h⟩ := Option.bind_eq_some_iff.mp h
    obtain ⟨teamsFile, hteamsFile, h⟩ := Option.bind_eq_some_iff.mp h
    obtain ⟨standingsFile, hstandingsFile, h⟩ := Option.bind_eq_some_iff.mp h
    obtain rfl := Option.some.inj h
    refine ⟨fields, hfields, fun s hs ↦ ?_⟩
    cases s with
    | directory => exact hdirectory
    | teamsFile => exact hteamsFile
    | standingsFile => exact hstandingsFile
    | _ => cases hs
  · rintro ⟨fields, hfields, h⟩
    refine Option.bind_eq_some_iff.mpr ⟨fields, hfields, ?_⟩
    refine Option.bind_eq_some_iff.mpr ⟨_, h .directory rfl, ?_⟩
    refine Option.bind_eq_some_iff.mpr ⟨_, h .teamsFile rfl, ?_⟩
    exact Option.bind_eq_some_iff.mpr ⟨_, h .standingsFile rfl, rfl⟩

/-- The table of a group in a document, an empty one if there is none. -/
def SettingGroup.tableIn (g : SettingGroup) (document : List (String × Toml)) : Toml :=
  (document.lookup g.name).getD (.table [])

namespace Configuration

variable {document : List (String × Toml)} {c : Configuration}

theorem setting?_eq_some_iff {g : SettingGroup} {α : Type} {read : Toml → Option α}
    {part : Configuration → α}
    (hread : ∀ {toml : Toml} {c : Configuration}, read toml = some (part c) ↔ g.IsReadFrom toml c) :
    Toml.setting? read document g.name (part {}) = some (part c) ↔
      g.IsReadFrom (g.tableIn document) c := by
  have hempty : read (.table []) = some (part {}) :=
    hread.mpr ⟨[], rfl, fun s _ ↦ s.isReadFrom_nil⟩
  rw [← hread, Toml.setting?, SettingGroup.tableIn]
  cases document.lookup g.name with
  | none => rw [Option.getD_none, hempty]
  | some toml => rw [Option.getD_some]

/-- A configuration is decoded group by group, and there setting by setting. -/
theorem ofToml?_eq_some_iff_groups :
    ofToml? document = some c ↔ ∀ g : SettingGroup, g.IsReadFrom (g.tableIn document) c := by
  constructor
  · intro h g
    obtain ⟨source, hsource, h⟩ := Option.bind_eq_some_iff.mp h
    obtain ⟨standings, hstandings, h⟩ := Option.bind_eq_some_iff.mp h
    obtain ⟨output, houtput, h⟩ := Option.bind_eq_some_iff.mp h
    obtain rfl := Option.some.inj h
    cases g with
    | source => exact (setting?_eq_some_iff SourceSettings.ofToml?_eq_some_iff).mp hsource
    | standings => exact (setting?_eq_some_iff StandingsSettings.ofToml?_eq_some_iff).mp hstandings
    | output => exact (setting?_eq_some_iff OutputSettings.ofToml?_eq_some_iff).mp houtput
  · intro h
    have hsource := (setting?_eq_some_iff SourceSettings.ofToml?_eq_some_iff).mpr (h .source)
    have hstandings :=
      (setting?_eq_some_iff StandingsSettings.ofToml?_eq_some_iff).mpr (h .standings)
    have houtput := (setting?_eq_some_iff OutputSettings.ofToml?_eq_some_iff).mpr (h .output)
    refine Option.bind_eq_some_iff.mpr ⟨c.source, hsource, ?_⟩
    refine Option.bind_eq_some_iff.mpr ⟨c.standings, hstandings, ?_⟩
    exact Option.bind_eq_some_iff.mpr ⟨c.output, houtput, rfl⟩

end Configuration

/-! ## Held and read -/

theorem SettingGroup.nodup_keys (g : SettingGroup) : g.keys.Nodup := by
  cases g <;> decide

theorem Toml.nodup_of_settings? {toml : Toml} {keys : List String} {fields : List (String × Toml)}
    (htoml : toml.Distinct) (hkeys : keys.Nodup) (h : toml.settings? keys = some fields) :
    (fields.map Prod.fst).Nodup := by
  cases htoml with
  | table hnodup _ =>
    obtain rfl := Option.some.inj h
    exact hnodup
  | array _ =>
    obtain rfl := Option.some.inj h
    rw [List.zip_eq_zip_take_min, List.map_fst_zip (by simp)]
    exact hkeys.sublist (List.take_sublist _ _)
  | dateTime =>
    obtain rfl := Option.some.inj h
    exact List.nodup_nil
  | _ => cases h

namespace SettingGroup

variable {document : List (String × Toml)} {g : SettingGroup} {toml : Toml}

theorem tableIn_of_mem (hdistinct : (Toml.table document).Distinct)
    (h : (g.name, toml) ∈ document) : g.tableIn document = toml := by
  cases hdistinct with
  | table hnodup _ => rw [tableIn, (lookup_eq_some_iff_mem hnodup).mpr h, Option.getD_some]

theorem distinct_tableIn (hdistinct : (Toml.table document).Distinct) :
    (g.tableIn document).Distinct := by
  cases hdistinct with
  | table hnodup hvalues =>
    rw [tableIn]
    cases hlookup : document.lookup g.name with
    | none => exact .table List.nodup_nil (List.forall_mem_nil _)
    | some toml => exact hvalues _ ((lookup_eq_some_iff_mem hnodup).mp hlookup)

end SettingGroup

theorem Setting.heldIn_iff_lookup {document : List (String × Toml)} {s : Setting} {v : Toml}
    {fields : List (String × Toml)} (hdistinct : (Toml.table document).Distinct)
    (hfields : (s.group.tableIn document).settings? s.group.keys = some fields) :
    s.HeldIn document v ↔ fields.lookup s.key = some v := by
  have hnodup := Toml.nodup_of_settings? (SettingGroup.distinct_tableIn hdistinct)
    s.group.nodup_keys hfields
  rw [lookup_eq_some_iff_mem hnodup]
  constructor
  · rintro ⟨toml, others, htoml, hothers, hv⟩
    rw [SettingGroup.tableIn_of_mem hdistinct htoml, hothers] at hfields
    exact Option.some.inj hfields ▸ hv
  · intro hv
    rw [SettingGroup.tableIn] at hfields
    cases hlookup : document.lookup s.group.name with
    | none =>
      rw [hlookup] at hfields
      obtain rfl := Option.some.inj hfields
      cases hv
    | some toml =>
      rw [hlookup] at hfields
      cases hdistinct with
      | table hkeys _ =>
        exact ⟨toml, fields, (lookup_eq_some_iff_mem hkeys).mp hlookup, hfields, hv⟩

theorem gives_iff_lookup {document : List (String × Toml)} {given : GivenSettings}
    {fields : SettingGroup → List (String × Toml)} (hdistinct : (Toml.table document).Distinct)
    (hfields : ∀ g : SettingGroup, (g.tableIn document).settings? g.keys = some (fields g)) :
    Gives document given ↔
      ∀ s : Setting, Option.Rel s.kind.Denotes ((fields s.group).lookup s.key) (given s) := by
  have hheld (s : Setting) (v : Toml) :
      s.HeldIn document v ↔ (fields s.group).lookup s.key = some v :=
    Setting.heldIn_iff_lookup hdistinct (hfields s.group)
  constructor
  · intro h s
    cases hgiven : given s with
    | none =>
      have hlookup : (fields s.group).lookup s.key = none :=
        Option.eq_none_iff_forall_not_mem.mpr fun v hv ↦
          h.lacking s hgiven v ((hheld s v).mpr hv)
      rw [hlookup]
      exact .none
    | some x =>
      obtain ⟨v, hv, hdenotes⟩ := h.held s x hgiven
      rw [(hheld s v).mp hv]
      exact .some hdenotes
  · intro h
    refine ⟨fun g toml htoml ↦ ?_, fun s x hx ↦ ?_, fun s hnone v hv ↦ ?_⟩
    · rw [← SettingGroup.tableIn_of_mem hdistinct htoml, hfields]
      rfl
    · have hs := h s
      rw [hx] at hs
      cases hlookup : (fields s.group).lookup s.key with
      | none =>
        rw [hlookup] at hs
        cases hs
      | some v =>
        rw [hlookup] at hs
        cases hs with
        | some hdenotes => exact ⟨v, (hheld s v).mpr hlookup, hdenotes⟩
    · have hs := h s
      rw [hnone, (hheld s v).mp hv] at hs
      cases hs

namespace Configuration

variable {document : List (String × Toml)} {given : GivenSettings} {c : Configuration}

theorem ofToml?_of_gives (hdistinct : (Toml.table document).Distinct)
    (h : Gives document given) :
    ofToml? document = some (({} : Configuration).override given) := by
  have hgroup (g : SettingGroup) :
      ∃ fields, (g.tableIn document).settings? g.keys = some fields := by
    rw [SettingGroup.tableIn]
    cases hlookup : document.lookup g.name with
    | none => exact ⟨[], rfl⟩
    | some toml =>
      cases hdistinct with
      | table hkeys _ =>
        exact Option.isSome_iff_exists.mp
          (h.groups g toml ((lookup_eq_some_iff_mem hkeys).mp hlookup))
  choose fields hfields using hgroup
  refine ofToml?_eq_some_iff_groups.mpr fun g ↦ ⟨fields g, hfields g, ?_⟩
  rintro s rfl
  exact Setting.isReadFrom_iff_rel.mpr
    ⟨given s, (gives_iff_lookup hdistinct hfields).mp h s, get_override _ given s⟩

/-- A document that is decoded gives some of the settings and nothing else to them. -/
theorem exists_gives_of_ofToml? (hdistinct : (Toml.table document).Distinct)
    (h : ofToml? document = some c) :
    ∃ given, Gives document given ∧ c = ({} : Configuration).override given := by
  rw [ofToml?_eq_some_iff_groups] at h
  choose fields hfields hread using h
  choose given hgiven hget using fun s : Setting ↦
    Setting.isReadFrom_iff_rel.mp (hread s.group s rfl)
  refine ⟨given, (gives_iff_lookup hdistinct hfields).mpr hgiven, ext_get fun s ↦ ?_⟩
  rw [hget, get_override]

end Configuration

end LeagueStandings
