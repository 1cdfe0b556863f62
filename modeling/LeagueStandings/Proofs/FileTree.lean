import LeagueStandings.FileTree
import LeagueStandings.Proofs.Except

/-!
# Reading what was written

A file that was written at a path is what the path leads to afterwards (`read_of_write`). A path
through which something can be written names a file in a directory (`Names`), and it goes on doing
so in every tree that has at least the same directories: writing a file never takes a directory
away.
-/

namespace LeagueStandings.FileTree

variable {t t' : FileTree} {location directory : Location} {path name : String}
  {contents : List UInt8}

/-! ## Walking -/

/-- The name means neither the directory it stands in nor the one above, and it is not too long. -/
structure IsProper (name : String) : Prop where
  ne_empty : name ≠ ""
  ne_dot : name ≠ "."
  ne_dots : name ≠ ".."
  length : name.utf8ByteSize ≤ longestName

/-- Where a name leads from a directory. -/
def next (location : Location) (name : String) : Except FileError Location :=
  if name = "" ∨ name = "." then .ok location
  else if name = ".." then .ok location.dropLast
  else if longestName < name.utf8ByteSize then .error .nameTooLong
  else .ok (location ++ [name])

theorem walk_cons (hat : t.at? location = some .directory) (name : String) (names : List String) :
    t.walk location (name :: names) = next location name >>= fun place ↦ t.walk place names := by
  rw [walk, hat, next]
  dsimp only
  split
  · rfl
  split
  · rfl
  split <;> rfl

theorem walk_dot_cons (location : Location) (name : String) (names : List String) :
    t.walk location ("." :: name :: names) = t.walk location (name :: names) := by
  cases hat : t.at? location with
  | none => rw [walk, walk, hat]
  | some entry =>
    cases entry with
    | file contents => rw [walk, walk, hat]
    | directory => rw [walk_cons hat, next, if_pos (.inr rfl), ok_bind]

theorem isDirectory_of_walk_cons {names : List String}
    (h : t.walk location (name :: names) = .ok directory) : t.at? location = some .directory := by
  rw [walk] at h
  cases hat : t.at? location with
  | none =>
    rw [hat] at h
    cases h
  | some entry =>
    rw [hat] at h
    cases entry with
    | file contents => cases h
    | directory => rfl

theorem walk_append {place : Location} {first : List String}
    (h : t.walk location first = .ok place) (second : List String) :
    t.walk location (first ++ second) = t.walk place second := by
  induction first generalizing location with
  | nil =>
    cases h
    rfl
  | cons name first ih =>
    have hat := isDirectory_of_walk_cons h
    rw [walk_cons hat] at h
    obtain ⟨between, hnext, h⟩ := bind_eq_ok_iff.mp h
    rw [List.cons_append, walk_cons hat, hnext, ok_bind, ih h]

theorem exists_of_walk_append {first second : List String}
    (h : t.walk location (first ++ second) = .ok directory) :
    ∃ place, t.walk location first = .ok place := by
  induction first generalizing location with
  | nil => exact ⟨location, rfl⟩
  | cons name first ih =>
    have hat := isDirectory_of_walk_cons h
    rw [List.cons_append, walk_cons hat] at h
    obtain ⟨between, hnext, h⟩ := bind_eq_ok_iff.mp h
    rw [walk_cons hat, hnext, ok_bind]
    exact ih h

theorem walk_mono (hdirectories : ∀ place, t.at? place = some .directory →
      t'.at? place = some .directory) {names : List String}
    (h : t.walk location names = .ok directory) : t'.walk location names = .ok directory := by
  induction names generalizing location with
  | nil => exact h
  | cons name names ih =>
    have hat := isDirectory_of_walk_cons h
    rw [walk_cons hat] at h
    obtain ⟨between, hnext, h⟩ := bind_eq_ok_iff.mp h
    rw [walk_cons (hdirectories _ hat), hnext, ok_bind, ih h]

theorem walk_proper (hat : t.at? location = some .directory) (h : IsProper name) :
    t.walk location [name] = .ok (location ++ [name]) := by
  rw [walk_cons hat, next, if_neg (not_or.mpr ⟨h.ne_empty, h.ne_dot⟩), if_neg h.ne_dots,
    if_neg (Nat.not_lt.mpr h.length)]
  rfl

theorem walk_dot (h : t.walk location ["."] = .ok directory) : directory = location := by
  rw [walk_cons (isDirectory_of_walk_cons h)] at h
  exact (Except.ok.inj h).symm

/-! ## Paths that name a file -/

/-- The path names something in a directory, whether it is there or not. -/
structure Names (t : FileTree) (path : String) (directory : Location) (name : String) : Prop where
  fault : fault? path = none
  ne_empty : path ≠ ""
  walk : ∃ before, names path = before ++ [name] ∧ t.walk (t.start path) before = .ok directory
  isDirectory : t.at? directory = some .directory
  isProper : IsProper name

theorem Names.locate (h : t.Names path directory name) :
    t.locate path = .ok (directory ++ [name]) := by
  obtain ⟨before, hnames, hwalk⟩ := h.walk
  rw [FileTree.locate, h.fault]
  dsimp only
  rw [if_neg h.ne_empty, hnames, walk_append hwalk, walk_proper h.isDirectory h.isProper]

theorem Names.mono (h : t.Names path directory name)
    (hat : ∀ place, t.at? place = some .directory → t'.at? place = some .directory)
    (hworking : t'.workingDirectory = t.workingDirectory) : t'.Names path directory name := by
  obtain ⟨before, hnames, hwalk⟩ := h.walk
  have hstart : t'.start path = t.start path := by rw [start, start, hworking]
  exact ⟨h.fault, h.ne_empty, ⟨before, hnames, hstart ▸ walk_mono hat hwalk⟩,
    hat _ h.isDirectory, h.isProper⟩

/-- Where something new would stand, if the names do not end with an empty one. -/
theorem exists_of_newPlace {start : Location} {names : List String}
    (h : t.newPlace start names = .ok (directory, some name)) (hlast : names.getLast? ≠ some "") :
    ∃ before, names = before ++ [name] ∧ t.walk start before = .ok directory ∧
      t.at? directory = some .directory ∧ name ≠ "" ∧ name ≠ "." ∧ name ≠ ".." := by
  have hlast : names.reverse.head? ≠ some "" := by rwa [List.head?_reverse]
  unfold newPlace at h
  split at h
  · cases h
  next last before hbefore =>
  obtain ⟨place, hwalk, h⟩ := bind_eq_ok_iff.mp h
  by_cases hdots : last = "." ∨ last = ".."
  · rw [if_pos hdots] at h
    cases h
  rw [if_neg hdots] at h
  cases h
  obtain ⟨hdot, hdots⟩ := not_or.mp hdots
  obtain ⟨between, hbetween⟩ := exists_of_walk_append hwalk
  rw [walk_append hbetween] at hwalk
  obtain rfl := walk_dot hwalk
  -- An empty name at the end has been excluded, so that none was dropped.
  have hnames : names.reverse = name :: before := by
    cases hreverse : names.reverse with
    | nil =>
      rw [hreverse] at hbefore
      cases hbefore
    | cons first rest =>
      rw [hreverse] at hbefore hlast
      have hfirst : ¬ (first == "") = true := fun heq ↦ hlast (congrArg some (eq_of_beq heq))
      rw [List.dropWhile_cons, if_neg hfirst] at hbefore
      exact hbefore
  refine ⟨before.reverse, ?_, hbetween, isDirectory_of_walk_cons hwalk, ?_, hdot, hdots⟩
  · rw [← List.reverse_reverse names, hnames, List.reverse_cons]
  · rintro rfl
    exact hlast (by rw [hnames]; rfl)

/-- **Writing a file** puts it where the path names it, and no directory is in its place. -/
theorem exists_names_of_write (h : t.write path contents = .ok t') :
    ∃ directory name, t.Names path directory name ∧
      t.at? (directory ++ [name]) ≠ some .directory ∧
      t' = t.set (directory ++ [name]) (.file contents) := by
  unfold write at h
  cases hfault : fault? path with
  | some e =>
    rw [hfault] at h
    cases h
  | none =>
  rw [hfault] at h
  by_cases hempty : path = ""
  · rw [if_pos hempty] at h
    cases h
  rw [if_neg hempty] at h
  obtain ⟨⟨directory, name?⟩, hplace, h⟩ := bind_eq_ok_iff.mp h
  cases name? with
  | none => cases h
  | some name =>
  dsimp only at h
  by_cases hlast : (names path).getLast? = some ""
  · rw [if_pos hlast] at h
    cases h
  rw [if_neg hlast] at h
  by_cases hlong : longestName < name.utf8ByteSize
  · rw [if_pos hlong] at h
    cases h
  rw [if_neg hlong] at h
  by_cases hdirectory : t.at? (directory ++ [name]) = some .directory
  · rw [if_pos hdirectory] at h
    cases h
  rw [if_neg hdirectory] at h
  obtain ⟨before, hnames, hwalk, hat, hne, hdot, hdots⟩ := exists_of_newPlace hplace hlast
  exact ⟨directory, name, ⟨hfault, hempty, ⟨before, hnames, hwalk⟩, hat,
    ⟨hne, hdot, hdots, Nat.not_lt.mp hlong⟩⟩, hdirectory, (Except.ok.inj h).symm⟩

/-! ## Reading -/

/-- **Reading back.** The path leads to the file that was written. -/
theorem read_of_write (h : t.write path contents = .ok t') : t'.read path = .ok contents := by
  obtain ⟨directory, name, hnames, hplace, rfl⟩ := exists_names_of_write h
  have hne : directory ++ [name] ≠ [] := List.append_ne_nil_of_right_ne_nil _ (List.cons_ne_nil _ _)
  -- No directory was replaced, so the path is followed as before.
  have hdirectories : ∀ place, t.at? place = some .directory →
      (t.set (directory ++ [name]) (.file contents)).at? place = some .directory := by
    intro place hat
    rw [at?_set _ _ _ hne, if_neg, hat]
    rintro rfl
    exact hplace hat
  have hlocate := (hnames.mono hdirectories rfl).locate
  rw [read, hlocate, ok_bind, at?_set _ _ _ hne, if_pos rfl]

theorem read_of_writeInPlace (h : t.writeInPlace path contents = (t', .ok ())) :
    t'.read path = .ok contents := by
  unfold writeInPlace at h
  split at h
  · cases h
  next made _ =>
  cases hwrite : made.write path contents with
  | error e =>
    rw [hwrite] at h
    cases h
  | ok after =>
    rw [hwrite] at h
    cases h
    exact read_of_write hwrite

end LeagueStandings.FileTree
