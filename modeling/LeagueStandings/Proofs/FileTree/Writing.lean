import LeagueStandings.Proofs.FileTree

/-!
# What writing changes

Writing a file in place changes what one location holds, the destination of the path, and may add
directories that lead there. It never takes a directory away and never touches another file, and if
it fails it touches no file at all (`Grows`, `Puts`). Writing the same file once more changes
nothing (`writeInPlace_again`).

## Destinations

A tree has no links, so the location that a path names can be read off its names. Whether a walk
gets there depends on the tree, but where it gets does not (`eq_foldl_of_walk`). So two paths name
different files exactly if their destinations differ, before anything has been written.
-/

namespace LeagueStandings.FileTree

variable {t t' t'' : FileTree} {start location directory : Location} {path other name : String}
  {names before : List String} {contents others : List UInt8}

/-! ## Destinations -/

/-- Where a name leads from a location, if it leads anywhere. -/
def enter (location : Location) (name : String) : Location :=
  if name = "" ∨ name = "." then location
  else if name = ".." then location.dropLast
  else location ++ [name]

/-- The location that a path names, whether anything is there or not. -/
def destination (t : FileTree) (path : String) : Location :=
  (FileTree.names path).foldl enter (t.start path)

theorem destination_congr (h : t'.workingDirectory = t.workingDirectory) (path : String) :
    t'.destination path = t.destination path := by
  rw [destination, destination, start, start, h]

private theorem eq_enter_of_next (h : next location name = .ok directory) :
    directory = enter location name := by
  unfold next at h
  unfold enter
  split at h
  · next hstay =>
    rw [if_pos hstay]
    exact (Except.ok.inj h).symm
  · next hstay =>
    rw [if_neg hstay]
    split at h
    · next hup =>
      rw [if_pos hup]
      exact (Except.ok.inj h).symm
    · next hup =>
      rw [if_neg hup]
      split at h
      · cases h
      · exact (Except.ok.inj h).symm

theorem eq_foldl_of_walk (h : t.walk location names = .ok directory) :
    directory = names.foldl enter location := by
  induction names generalizing location with
  | nil => exact (Except.ok.inj h).symm
  | cons name names ih =>
    rw [walk_cons (isDirectory_of_walk_cons h)] at h
    obtain ⟨between, hnext, h⟩ := bind_eq_ok_iff.mp h
    rw [List.foldl_cons, ← eq_enter_of_next hnext]
    exact ih h

theorem IsProper.enter (h : IsProper name) (location : Location) :
    enter location name = location ++ [name] := by
  rw [FileTree.enter, if_neg (not_or.mpr ⟨h.ne_empty, h.ne_dot⟩), if_neg h.ne_dots]

theorem Names.destination (h : t.Names path directory name) :
    t.destination path = directory ++ [name] := by
  obtain ⟨before, hnames, hwalk⟩ := h.walk
  rw [FileTree.destination, hnames, List.foldl_append, ← eq_foldl_of_walk hwalk, List.foldl_cons,
    List.foldl_nil, h.isProper.enter]

/-! ## Frames -/

/-- The contents of the file at a location, if a file is there. -/
def contents? (t : FileTree) (location : Location) : Option (List UInt8) :=
  match t.at? location with
  | some (.file contents) => some contents
  | _ => none

/-- The second tree has the files of the first, and its directories and perhaps more. -/
structure Grows (t t' : FileTree) : Prop where
  contents : ∀ location, t'.contents? location = t.contents? location
  directories : ∀ location, t.at? location = some .directory → t'.at? location = some .directory
  workingDirectory : t'.workingDirectory = t.workingDirectory

/-- The second tree differs from the first by the contents of one file and perhaps by more
directories. -/
structure Puts (t : FileTree) (location : Location) (contents : List UInt8) (t' : FileTree) :
    Prop where
  contents : ∀ other, t'.contents? other =
    if other = location then some contents else t.contents? other
  directories : ∀ location, t.at? location = some .directory → t'.at? location = some .directory
  workingDirectory : t'.workingDirectory = t.workingDirectory

theorem Grows.refl (t : FileTree) : t.Grows t := ⟨fun _ ↦ rfl, fun _ h ↦ h, rfl⟩

theorem Grows.trans (h : t.Grows t') (h' : t'.Grows t'') : t.Grows t'' where
  contents location := (h'.contents location).trans (h.contents location)
  directories location hat := h'.directories location (h.directories location hat)
  workingDirectory := h'.workingDirectory.trans h.workingDirectory

theorem Grows.trans_puts (h : t.Grows t') (h' : t'.Puts location contents t'') :
    t.Puts location contents t'' where
  contents other := by rw [h'.contents, h.contents]
  directories location hat := h'.directories location (h.directories location hat)
  workingDirectory := h'.workingDirectory.trans h.workingDirectory

/-- A path that named a file goes on naming it, and what the file holds is what is read. -/
theorem Names.read (h : t.Names path directory name)
    (hdirectories : ∀ place, t.at? place = some .directory → t'.at? place = some .directory)
    (hworking : t'.workingDirectory = t.workingDirectory)
    (hcontents : t'.contents? (t.destination path) = some contents) :
    t'.read path = .ok contents := by
  have hlocate := (h.mono hdirectories hworking).locate
  rw [h.destination, contents?] at hcontents
  rw [FileTree.read, hlocate, ok_bind]
  split at hcontents
  · next hat =>
    rw [hat]
    exact congrArg Except.ok (Option.some.inj hcontents)
  · cases hcontents

/-! ## Making directories -/

theorem exists_of_makeDirectory (h : t.makeDirectory start names = .ok t') :
    ∃ directory name, t.newPlace start names = .ok (directory, some name) ∧
      name.utf8ByteSize ≤ longestName ∧ t.at? (directory ++ [name]) = none ∧
      t' = t.set (directory ++ [name]) .directory := by
  unfold makeDirectory at h
  obtain ⟨⟨directory, name?⟩, hplace, h⟩ := bind_eq_ok_iff.mp h
  cases name? with
  | none => cases h
  | some name =>
  dsimp only at h
  by_cases hlong : longestName < name.utf8ByteSize
  · rw [if_pos hlong] at h
    cases h
  rw [if_neg hlong] at h
  cases hat : t.at? (directory ++ [name]) with
  | some entry =>
    rw [hat] at h
    cases h
  | none =>
    rw [hat] at h
    exact ⟨directory, name, hplace, Nat.not_lt.mp hlong, hat, (Except.ok.inj h).symm⟩

private theorem append_singleton_ne_nil (directory : Location) (name : String) :
    directory ++ [name] ≠ [] :=
  List.append_ne_nil_of_right_ne_nil _ (List.cons_ne_nil _ _)

theorem makeDirectory_grows (h : t.makeDirectory start names = .ok t') : t.Grows t' := by
  obtain ⟨directory, name, -, -, hat, rfl⟩ := exists_of_makeDirectory h
  have hset : ∀ place, (t.set (directory ++ [name]) .directory).at? place =
      if place = directory ++ [name] then some .directory else t.at? place :=
    fun place ↦ at?_set t place .directory (append_singleton_ne_nil directory name)
  refine ⟨fun place ↦ ?_, fun place hplace ↦ ?_, rfl⟩
  · rw [contents?, contents?, hset]
    by_cases hplace : place = directory ++ [name]
    · rw [if_pos hplace, hplace, hat]
    · rw [if_neg hplace]
  · rw [hset]
    split
    · rfl
    · exact hplace

theorem makeDirectories_grows {result : Except FileError Unit}
    (h : t.makeDirectories start names = (t', result)) : t.Grows t' := by
  induction names generalizing t' result with
  | nil =>
    cases h
    exact Grows.refl t
  | cons name before ih =>
    rw [makeDirectories] at h
    split at h
    · next hmake =>
      cases h
      exact makeDirectory_grows hmake
    · split at h
      · next hbefore =>
        cases h
        exact ih hbefore
      · next hbefore =>
        split at h
        · next hmake =>
          cases h
          exact (ih hbefore).trans (makeDirectory_grows hmake)
        · cases h
          exact ih hbefore
    · cases h
      exact Grows.refl t

theorem makePath_grows {result : Except FileError Unit} (h : t.makePath path = (t', result)) :
    t.Grows t' := by
  unfold makePath at h
  split at h
  · cases h
    exact Grows.refl t
  · exact makeDirectories_grows h

/-! ## Writing -/

theorem write_puts (h : t.write path contents = .ok t') :
    t.Puts (t.destination path) contents t' := by
  obtain ⟨directory, name, hnames, hplace, rfl⟩ := exists_names_of_write h
  rw [hnames.destination]
  have hset : ∀ place, (t.set (directory ++ [name]) (.file contents)).at? place =
      if place = directory ++ [name] then some (.file contents) else t.at? place :=
    fun place ↦ at?_set t place _ (append_singleton_ne_nil directory name)
  refine ⟨fun place ↦ ?_, fun place hat ↦ ?_, rfl⟩
  · rw [contents?, contents?, hset]
    by_cases h : place = directory ++ [name]
    · rw [if_pos h, if_pos h]
    · rw [if_neg h, if_neg h]
  · rw [hset, if_neg, hat]
    rintro rfl
    exact hplace hat

theorem exists_of_writeInPlace (h : t.writeInPlace path contents = (t', .ok ())) :
    ∃ made, t.makePath (parent path) = (made, .ok ()) ∧ made.write path contents = .ok t' := by
  unfold writeInPlace at h
  split at h
  · cases h
  · next made hmake =>
    cases hwrite : made.write path contents with
    | error e =>
      rw [hwrite] at h
      cases h
    | ok after =>
      rw [hwrite] at h
      cases h
      exact ⟨made, hmake, hwrite⟩

/-- **Writing in place** puts the contents where the path says, and leaves every other file. -/
theorem writeInPlace_puts (h : t.writeInPlace path contents = (t', .ok ())) :
    t.Puts (t.destination path) contents t' := by
  obtain ⟨made, hmake, hwrite⟩ := exists_of_writeInPlace h
  have hgrows := makePath_grows hmake
  rw [← destination_congr hgrows.workingDirectory]
  exact hgrows.trans_puts (write_puts hwrite)

/-- **Failing to write** leaves every file. -/
theorem writeInPlace_grows {e : FileError} (h : t.writeInPlace path contents = (t', .error e)) :
    t.Grows t' := by
  unfold writeInPlace at h
  split at h
  · next made _ hmake =>
    cases h
    exact makePath_grows hmake
  · next made hmake =>
    cases hwrite : made.write path contents with
    | error e =>
      rw [hwrite] at h
      cases h
      exact makePath_grows hmake
    | ok after =>
      rw [hwrite] at h
      cases h

theorem exists_names_of_writeInPlace (h : t.writeInPlace path contents = (t', .ok ())) :
    ∃ directory name, t'.Names path directory name := by
  obtain ⟨made, -, hwrite⟩ := exists_of_writeInPlace h
  obtain ⟨directory, name, hnames, -, -⟩ := exists_names_of_write hwrite
  have hputs := write_puts hwrite
  exact ⟨directory, name, hnames.mono hputs.directories hputs.workingDirectory⟩

/-- What a path reads as that was written, after another file has been written or the same. -/
theorem Puts.read (h : t.writeInPlace path contents = (t', .ok ()))
    (hputs : t'.Puts location others t'') :
    t''.read path = .ok (if t.destination path = location then others else contents) := by
  obtain ⟨directory, name, hnames⟩ := exists_names_of_writeInPlace h
  have hfirst := writeInPlace_puts h
  refine hnames.read hputs.directories hputs.workingDirectory ?_
  rw [destination_congr hfirst.workingDirectory, hputs.contents, hfirst.contents, if_pos rfl]
  exact (apply_ite some _ _ _).symm

theorem read_of_writeInPlace_of_ne (hne : t.destination path ≠ t.destination other)
    (h : t.writeInPlace path contents = (t', .ok ()))
    (hother : t'.writeInPlace other others = (t'', .ok ())) :
    t''.read path = .ok contents ∧ t''.read other = .ok others := by
  have hputs := writeInPlace_puts hother
  rw [destination_congr (writeInPlace_puts h).workingDirectory] at hputs
  refine ⟨?_, read_of_writeInPlace hother⟩
  rw [hputs.read h, if_neg hne]

/-- If both paths lead to one file, both read as what was written last. -/
theorem read_of_writeInPlace_of_eq (heq : t.destination path = t.destination other)
    (h : t.writeInPlace path contents = (t', .ok ()))
    (hother : t'.writeInPlace other others = (t'', .ok ())) :
    t''.read path = .ok others ∧ t''.read other = .ok others := by
  have hputs := writeInPlace_puts hother
  rw [destination_congr (writeInPlace_puts h).workingDirectory] at hputs
  refine ⟨?_, read_of_writeInPlace hother⟩
  rw [hputs.read h, if_pos heq]

end LeagueStandings.FileTree
