import LeagueStandings.Proofs.Configuration.Decoding
import LeagueStandings.Proofs.Configuration.Loading
import LeagueStandings.Proofs.FileTree
import LeagueStandings.Proofs.Run.Sequence
import LeagueStandings.Proofs.Toml.Parser

/-!
# A configuration file overrides the defaults

What a file gives replaces the default, setting by setting (`load_override`). Decoding knows nothing
of files, and validation nothing of what was given: it looks at the merged settings
(`validate_override`), so that a bound in a file may clash with the default of the other bound.

It is also known the other way round that there is nothing between the defaults and a whole file.
What was loaded is one or the other (`default_or_exists_gives_of_load`), and a file with a value
that does not fit its setting gives no configuration at all.
-/

namespace LeagueStandings

/-- The failure, with another path for a file that could not be read. -/
def Failure.unreadableAt (path : String) : Failure → Failure
  | .configuration (.unreadable _ cause) => .configuration (.unreadable path cause)
  | failure => failure

namespace FileTree

variable {t : FileTree}

theorem locate_dot_defaultFile :
    t.locate ("./" ++ Configuration.defaultFile) = t.locate Configuration.defaultFile := by
  have hnames : names ("./" ++ Configuration.defaultFile) = [".", Configuration.defaultFile] := by
    decide +kernel
  have hname : names Configuration.defaultFile = [Configuration.defaultFile] := by decide +kernel
  have hstart : t.start ("./" ++ Configuration.defaultFile) = t.start Configuration.defaultFile :=
    rfl
  rw [locate, locate, hnames, hname, hstart, walk_dot_cons]
  rfl

end FileTree

namespace Configuration

variable {files : FileTree} {document : List (String × Toml)} {given : GivenSettings}
  {c : Configuration}

/-! ## The default file -/

theorem load_none_of_find? (hthere : (files.find? defaultFile).isSome = true) :
    load files none = load files (some defaultFile) := by
  rw [load, load]
  dsimp only
  rw [if_pos hthere]

theorem load_none_of_find?_eq_none (habsent : files.find? defaultFile = none) :
    load files none = .ok {} := by
  have hnot : ¬ (files.find? defaultFile).isSome = true := by
    rw [habsent]
    exact Bool.false_ne_true
  rw [load]
  dsimp only
  rw [if_neg hnot, ok_bind, validate_eq_ok_iff]
  exact ⟨rfl, by decide +kernel, Nat.succ_pos 29⟩

theorem ofFile_dot_defaultFile : ofFile files ("./" ++ defaultFile) =
    (ofFile files defaultFile).mapError (.unreadableAt ("./" ++ defaultFile)) := by
  have hread : readText files ("./" ++ defaultFile) = readText files defaultFile := by
    rw [readText, readText, FileTree.read, FileTree.read, FileTree.locate_dot_defaultFile]
  rw [ofFile, ofFile, hread]
  cases readText files defaultFile with
  | error e => rfl
  | ok text =>
    simp only [Except.mapError, ok_bind]
    cases ofText? text <;> rfl

theorem mapError_unreadableAt_validate (path : String) :
    c.validate.mapError (.unreadableAt path) = c.validate := by
  rw [validate]
  split
  · rfl
  · split <;> rfl

/-- With a dot before it the default file is the same, but it has another name in a failure to read
it. -/
theorem load_dot_defaultFile (hthere : (files.find? defaultFile).isSome = true) :
    load files (some ("./" ++ defaultFile)) =
      (load files none).mapError (.unreadableAt ("./" ++ defaultFile)) := by
  rw [load_none_of_find? hthere, load, load]
  dsimp only
  rw [ofFile_dot_defaultFile]
  cases ofFile files defaultFile with
  | error e => rfl
  | ok c => exact (mapError_unreadableAt_validate _).symm

/-! ## Any file -/

private theorem default_lowestPoints : Setting.get {} .lowestPoints = Binary64.ofInt 80 := by
  rw [Setting.get, PointsRange.usual]

private theorem default_highestPoints : Setting.get {} .highestPoints = Binary64.ofInt 140 := by
  rw [Setting.get, PointsRange.usual]

theorem validate_override (given : GivenSettings) :
    (({} : Configuration).override given).validate =
      let lowest := (given .lowestPoints).getD (.ofInt 80)
      let highest := (given .highestPoints).getD (.ofInt 140)
      if highest.lt lowest then .error (.configuration (.invertedRange lowest highest))
      else if (given .timeoutSeconds).getD 30 = 0 then .error (.configuration .zeroTimeout)
      else .ok (({} : Configuration).override given) := by
  have hlowest : (({} : Configuration).override given).standings.lowestPoints =
      (given .lowestPoints).getD (.ofInt 80) := by
    rw [← default_lowestPoints]
    exact get_override {} given .lowestPoints
  have hhighest : (({} : Configuration).override given).standings.highestPoints =
      (given .highestPoints).getD (.ofInt 140) := by
    rw [← default_highestPoints]
    exact get_override {} given .highestPoints
  have htimeout : (({} : Configuration).override given).source.timeoutSeconds =
      (given .timeoutSeconds).getD 30 := get_override {} given .timeoutSeconds
  rw [validate, hlowest, hhighest, htimeout]

theorem load_of_gives (hgives : Gives document given) {path text : String}
    (hread : readText files path = .ok text)
    (hdocument : TomlReader.document? text = some document) :
    load files (some path) = (({} : Configuration).override given).validate := by
  have htext : ofText? text = some (({} : Configuration).override given) := by
    rw [ofText?, hdocument, Option.bind_some]
    exact ofToml?_of_gives (TomlReader.distinct_of_document? hdocument) hgives
  rw [load]
  dsimp only
  rw [ofFile_eq_ok_iff.mpr ⟨text, hread, htext⟩, ok_bind]

theorem exists_gives_of_ofFile {path : String} (h : ofFile files path = .ok c) :
    ∃ text document given, readText files path = .ok text ∧
      TomlReader.document? text = some document ∧ Gives document given ∧
      c = ({} : Configuration).override given := by
  obtain ⟨text, hread, htext⟩ := ofFile_eq_ok_iff.mp h
  obtain ⟨document, hdocument, hc⟩ := Option.bind_eq_some_iff.mp htext
  obtain ⟨given, hgives, hc⟩ :=
    exists_gives_of_ofToml? (TomlReader.distinct_of_document? hdocument) hc
  exact ⟨text, document, given, hread, hdocument, hgives, hc⟩

/-- A configuration that has been loaded is the default one, because there is no file, or all that a
file gives has gone into it. -/
theorem default_or_exists_gives_of_load {path : Option String} (h : load files path = .ok c) :
    path = none ∧ files.find? defaultFile = none ∧ c = {} ∨
      ∃ text document given, readText files (path.getD defaultFile) = .ok text ∧
        TomlReader.document? text = some document ∧ Gives document given ∧
        c = ({} : Configuration).override given := by
  have hfile {name : String} (h : load files (some name) = .ok c) : ofFile files name = .ok c := by
    obtain ⟨read, hread, hvalid⟩ := bind_eq_ok_iff.mp h
    obtain ⟨rfl, -⟩ := validate_eq_ok_iff.mp hvalid
    exact hread
  cases path with
  | some name => exact .inr (exists_gives_of_ofFile (hfile h))
  | none =>
    cases hthere : files.find? defaultFile with
    | none =>
      rw [load_none_of_find?_eq_none hthere] at h
      exact .inl ⟨rfl, rfl, (Except.ok.inj h).symm⟩
    | some entry =>
      rw [load_none_of_find? (by rw [hthere]; rfl)] at h
      exact .inr (exists_gives_of_ofFile (hfile h))

/-- **A file overrides the defaults setting by setting.** A document gives some of the settings, in
whatever order and with whatever else between them. It is decoded as the default configuration with
these settings replaced and no others. A file with that document is loaded as this configuration,
unless the bounds or the time to wait, be they given or defaults, are refused.

Without a path, what is loaded is the default file if it is there; a `./` before its name makes a
difference only to the words of a failure to read it. Else the defaults are loaded. Whatever is
loaded is either the defaults or all that a file gives. -/
theorem load_override :
    (∀ (document : List (String × Toml)) (given : GivenSettings),
      (Toml.table document).Distinct → Gives document given →
        ofToml? document = some (({} : Configuration).override given) ∧
        ∀ (files : FileTree) (path text : String), readText files path = .ok text →
          TomlReader.document? text = some document →
          load files (some path) =
            let lowest := (given .lowestPoints).getD (.ofInt 80)
            let highest := (given .highestPoints).getD (.ofInt 140)
            if highest.lt lowest then .error (.configuration (.invertedRange lowest highest))
            else if (given .timeoutSeconds).getD 30 = 0 then .error (.configuration .zeroTimeout)
            else .ok (({} : Configuration).override given)) ∧
    (∀ files : FileTree, (files.find? defaultFile).isSome = true →
      load files none = load files (some defaultFile) ∧
      load files (some ("./" ++ defaultFile)) =
        (load files none).mapError (.unreadableAt ("./" ++ defaultFile))) ∧
    (∀ files : FileTree, files.find? defaultFile = none → load files none = .ok {}) ∧
    ∀ (files : FileTree) (path : Option String) (c : Configuration), load files path = .ok c →
      path = none ∧ files.find? defaultFile = none ∧ c = {} ∨
        ∃ text document given, readText files (path.getD defaultFile) = .ok text ∧
          TomlReader.document? text = some document ∧ Gives document given ∧
          c = ({} : Configuration).override given := by
  refine ⟨fun document given hdistinct hgives ↦ ⟨ofToml?_of_gives hdistinct hgives, ?_⟩, ?_, ?_, ?_⟩
  · intro files path text hread hdocument
    rw [load_of_gives hgives hread hdocument, validate_override]
  · intro files hthere
    exact ⟨load_none_of_find? hthere, load_dot_defaultFile hthere⟩
  · intro files habsent
    exact load_none_of_find?_eq_none habsent
  · intro files path c h
    exact default_or_exists_gives_of_load h

/-- Two settings and a key that means nothing. The bound is an integer. -/
def partialText : String :=
  "[output]\ndir = \"out\"\nwide = true\n[standings]\nmax_points_per_game = 90\n"

/-- The document in that text. -/
def partialDocument : List (String × Toml) :=
  [("output", .table [("dir", .string "out"), ("wide", .boolean true)]),
    ("standings", .table [("max_points_per_game", .integer 90)])]

/-- What that document gives. -/
def partialGiven : GivenSettings
  | .directory => some "out"
  | .highestPoints => some (.ofInt 90)
  | _ => none

/-- One bound, which is below the default of the other. -/
def clashingText : String := "standings.max_points_per_game = 60\n"

/-- The document in that text. -/
def clashingDocument : List (String × Toml) :=
  [("standings", .table [("max_points_per_game", .integer 60)])]

/-- What that document gives. -/
def clashingGiven : GivenSettings
  | .highestPoints => some (.ofInt 60)
  | _ => none

private theorem document?_partialText :
    TomlReader.document? partialText = some partialDocument :=
  Toml.eq_some_of_any_sameFields (by decide +kernel)

private theorem document?_clashingText :
    TomlReader.document? clashingText = some clashingDocument :=
  Toml.eq_some_of_any_sameFields (by decide +kernel)

private theorem gives_partialDocument : Gives partialDocument partialGiven := by
  have hfields (g : SettingGroup) : (g.tableIn partialDocument).settings? g.keys =
      some (((g.tableIn partialDocument).settings? g.keys).getD []) := by
    cases g <;> rfl
  refine (gives_iff_lookup (TomlReader.distinct_of_document? document?_partialText) hfields).mpr
    fun s ↦ ?_
  cases s with
  | directory => exact .some (.text "out")
  | highestPoints => exact .some (.whole 90)
  | _ => exact .none

private theorem gives_clashingDocument : Gives clashingDocument clashingGiven := by
  have hfields (g : SettingGroup) : (g.tableIn clashingDocument).settings? g.keys =
      some (((g.tableIn clashingDocument).settings? g.keys).getD []) := by
    cases g <;> rfl
  refine (gives_iff_lookup (TomlReader.distinct_of_document? document?_clashingText) hfields).mpr
    fun s ↦ ?_
  cases s with
  | highestPoints => exact .some (.whole 60)
  | _ => exact .none

/-- A file that gives two settings leaves the others as they are. A file that gives a bound which
clashes with the default of the other one is refused. -/
theorem load_override_partialText :
    load (Run.configured partialText) none =
        .ok { standings := { highestPoints := .ofInt 90 }, output := { directory := "out" } } ∧
      load (Run.configured clashingText) none =
        .error (.configuration (.invertedRange (.ofInt 80) (.ofInt 60))) := by
  constructor
  · have hload := (load_override.1 partialDocument partialGiven
      (TomlReader.distinct_of_document? document?_partialText) gives_partialDocument).2
      (Run.configured partialText) defaultFile partialText (readText_of_read rfl)
      document?_partialText
    have hmerged : ({} : Configuration).override partialGiven =
        { standings := { highestPoints := .ofInt 90 }, output := { directory := "out" } } := by
      decide +kernel
    have hrange : (Binary64.ofInt 90).lt (.ofInt 80) = false := by decide +kernel
    rw [(load_override.2.1 (Run.configured partialText) rfl).1, hload, hmerged]
    simp [partialGiven, hrange]
  · have hload := (load_override.1 clashingDocument clashingGiven
      (TomlReader.distinct_of_document? document?_clashingText) gives_clashingDocument).2
      (Run.configured clashingText) defaultFile clashingText (readText_of_read rfl)
      document?_clashingText
    have hrange : (Binary64.ofInt 60).lt (.ofInt 80) = true := by decide +kernel
    rw [(load_override.2.1 (Run.configured clashingText) rfl).1, hload]
    simp [clashingGiven, hrange]

end Configuration

end LeagueStandings
