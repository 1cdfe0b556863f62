import LeagueStandings.Configuration.Reader
import LeagueStandings.Proofs.Except

/-!
# Loading a configuration

Whatever the file, a configuration is in force only after it has been validated
(`validate_of_load`), and validating changes nothing.
-/

namespace LeagueStandings.Configuration

variable {files : FileTree} {path : Option String} {c d : Configuration}

/-- Validation lets a configuration pass as it is, unless a strict comparison finds the bounds of
the points in the wrong order or there is no time to wait. -/
theorem validate_eq_ok_iff :
    c.validate = .ok d ↔
      c = d ∧ c.standings.highestPoints.lt c.standings.lowestPoints = false ∧
        0 < c.source.timeoutSeconds := by
  rw [validate]
  split
  · next hrange => simp [hrange]
  · next hrange =>
    split
    · next htimeout => simp [htimeout]
    · next htimeout => simp [hrange, Nat.pos_of_ne_zero htimeout]

theorem validate_of_load (h : load files path = .ok c) : c.validate = .ok c := by
  have hread : ∃ read : Configuration, read.validate = .ok c := by
    cases path with
    | some name =>
      obtain ⟨read, -, hvalid⟩ := bind_eq_ok_iff.mp h
      exact ⟨read, hvalid⟩
    | none =>
      rw [load] at h
      dsimp only at h
      split at h
      all_goals
        obtain ⟨read, -, hvalid⟩ := bind_eq_ok_iff.mp h
        exact ⟨read, hvalid⟩
  obtain ⟨read, hvalid⟩ := hread
  obtain ⟨rfl, -⟩ := validate_eq_ok_iff.mp hvalid
  exact hvalid

theorem ofFile_eq_ok_iff {name : String} :
    ofFile files name = .ok c ↔ ∃ text, readText files name = .ok text ∧ ofText? text = some c := by
  constructor
  · intro h
    obtain ⟨text, hread, h⟩ := bind_eq_ok_iff.mp h
    refine ⟨text, mapError_eq_ok_iff.mp hread, ?_⟩
    split at h
    · next htext =>
      obtain rfl := Except.ok.inj h
      exact htext
    · cases h
  · rintro ⟨text, hread, htext⟩
    rw [ofFile, hread, Except.mapError, ok_bind, htext]

theorem readText_of_read {name text : String} (hread : files.read name = .ok (Utf8.encode text)) :
    readText files name = .ok text := by
  rw [readText, hread, ok_bind, Utf8.decode?_encode]

theorem ofFile_of_read {name text : String} (hread : files.read name = .ok (Utf8.encode text))
    (htext : ofText? text = some c) : ofFile files name = .ok c :=
  ofFile_eq_ok_iff.mpr ⟨text, readText_of_read hread, htext⟩

theorem load_defaultFile {text : String} (hthere : (files.find? defaultFile).isSome = true)
    (hread : files.read defaultFile = .ok (Utf8.encode text)) (htext : ofText? text = some c) :
    load files none = c.validate := by
  rw [load]
  dsimp only
  rw [if_pos hthere, ofFile_of_read hread htext, ok_bind]

end LeagueStandings.Configuration
