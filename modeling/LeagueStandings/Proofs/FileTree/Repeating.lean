import LeagueStandings.Proofs.FileTree.Writing

/-!
# Writing the same file again

Once a file has been written in place, the directories around it are there and making them again
makes nothing. The file itself is replaced by one with the same contents. So the tree stays the
same, as a value and not only in what it shows (`writeInPlace_again`).
-/

namespace LeagueStandings.FileTree

variable {t t' : FileTree} {start location directory : Location} {path name : String}
  {names before : List String} {contents : List UInt8}

theorem set_set (t : FileTree) (location : Location) (entry entry' : FileEntry) :
    (t.set location entry).set location entry' = t.set location entry' := by
  simp [set, List.filter_filter]

/-! ## Directories that are there -/

theorem isDirectory_iff : t.isDirectory start names = true ↔
    ∃ location, t.walk start names = .ok location ∧ t.at? location = some .directory := by
  rw [isDirectory]
  cases t.walk start names with
  | error e => exact iff_of_false Bool.false_ne_true fun ⟨_, h, _⟩ ↦ nomatch h
  | ok location =>
    constructor
    · intro h
      exact ⟨location, rfl, eq_of_beq h⟩
    · rintro ⟨_, h, hat⟩
      cases h
      exact beq_iff_eq.mpr hat

theorem newPlace_append (hwalk : t.walk start before = .ok directory)
    (hat : t.at? directory = some .directory) (hne : name ≠ "") :
    t.newPlace start (before ++ [name]) =
      .ok (directory, if name = "." ∨ name = ".." then none else some name) := by
  have hstay : t.walk start (before ++ ["."]) = .ok directory := by
    rw [walk_append hwalk, walk_cons hat]
    rfl
  have hlast : ¬ (name == "") = true := fun h ↦ hne (eq_of_beq h)
  rw [newPlace, List.reverse_append, List.reverse_singleton, List.singleton_append,
    List.dropWhile_cons, if_neg hlast]
  dsimp only
  rw [List.reverse_reverse, hstay]
  rfl

theorem makeDirectory_of_isDirectory (hne : name ≠ "")
    (h : t.isDirectory start (before ++ [name]) = true) :
    t.makeDirectory start (before ++ [name]) = .error .alreadyExists := by
  obtain ⟨place, hwalk, hplace⟩ := isDirectory_iff.mp h
  obtain ⟨between, hbefore⟩ := exists_of_walk_append hwalk
  rw [walk_append hbefore] at hwalk
  have hat := isDirectory_of_walk_cons hwalk
  rw [makeDirectory, newPlace_append hbefore hat hne, ok_bind]
  by_cases hdots : name = "." ∨ name = ".."
  · rw [if_pos hdots]
    rfl
  -- The walk to the directory has passed its name, which is therefore not too long.
  rw [walk_cons hat, next, if_neg (not_or.mpr ⟨hne, (not_or.mp hdots).1⟩),
    if_neg (not_or.mp hdots).2] at hwalk
  rw [if_neg hdots]
  dsimp only
  split at hwalk
  · cases hwalk
  · next hlong =>
    cases hwalk
    rw [if_neg hlong, hplace]
    rfl

theorem makeDirectories_of_isDirectory (hne : ∀ name ∈ names, name ≠ "")
    (h : names = [] ∨ t.isDirectory start names.reverse = true) :
    t.makeDirectories start names = (t, .ok ()) := by
  cases names with
  | nil => rfl
  | cons name before =>
    have h := h.resolve_left (List.cons_ne_nil _ _)
    rw [List.reverse_cons] at h
    rw [makeDirectories, List.reverse_cons,
      makeDirectory_of_isDirectory (hne name List.mem_cons_self) h]
    dsimp only
    rw [if_pos h]

/-! ## Directories that have been made -/

theorem isDirectory_of_makeDirectory (hne : name ≠ "")
    (h : t.makeDirectory start (before ++ [name]) = .ok t') :
    t'.isDirectory start (before ++ [name]) = true := by
  have hgrows := makeDirectory_grows h
  obtain ⟨directory, name', hplace, hlong, -, rfl⟩ := exists_of_makeDirectory h
  have hlast : (before ++ [name]).getLast? ≠ some "" := by
    rw [List.getLast?_concat]
    exact fun h ↦ hne (Option.some.inj h)
  obtain ⟨before', hnames, hwalk, hat, -, hdot, hdots⟩ := exists_of_newPlace hplace hlast
  obtain ⟨rfl, hname⟩ := List.append_inj' hnames rfl
  cases hname
  refine isDirectory_iff.mpr ⟨directory ++ [name], ?_, ?_⟩
  · rw [walk_append (walk_mono hgrows.directories hwalk)]
    exact walk_proper (hgrows.directories _ hat) ⟨hne, hdot, hdots, hlong⟩
  · rw [at?_set _ _ _ (List.append_ne_nil_of_right_ne_nil _ (List.cons_ne_nil _ _)), if_pos rfl]

theorem isDirectory_of_makeDirectories (hne : ∀ name ∈ names, name ≠ "")
    (h : t.makeDirectories start names = (t', .ok ())) :
    names = [] ∨ t'.isDirectory start names.reverse = true := by
  cases names with
  | nil => exact .inl rfl
  | cons name before =>
    have hname := hne name List.mem_cons_self
    rw [List.reverse_cons]
    rw [makeDirectories, List.reverse_cons] at h
    refine .inr ?_
    split at h
    · next hmake =>
      cases h
      exact isDirectory_of_makeDirectory hname hmake
    · split at h
      · cases h
      · split at h
        · next hmake =>
          cases h
          exact isDirectory_of_makeDirectory hname hmake
        · split at h
          · next hdirectory =>
            cases h
            exact hdirectory
          · cases h
    · split at h
      · next hdirectory =>
        cases h
        exact hdirectory
      · cases h

/-! ## Again -/

theorem isDirectory_mono (hdirectories : ∀ place, t.at? place = some .directory →
      t'.at? place = some .directory) (h : t.isDirectory start names = true) :
    t'.isDirectory start names = true := by
  obtain ⟨place, hwalk, hat⟩ := isDirectory_iff.mp h
  exact isDirectory_iff.mpr ⟨place, walk_mono hdirectories hwalk, hdirectories place hat⟩

/-- A path that has been made is made in no time, also after files have been written. -/
theorem makePath_again {made : FileTree} (h : t.makePath path = (made, .ok ()))
    (hdirectories : ∀ place, made.at? place = some .directory → t'.at? place = some .directory)
    (hworking : t'.workingDirectory = t.workingDirectory) :
    t'.makePath path = (t', .ok ()) := by
  have hne : ∀ name ∈ (properNames path).reverse, name ≠ "" := by
    intro name hname
    have hproper := (List.mem_filter.mp (List.mem_reverse.mp hname)).2
    exact bne_iff_ne.mp (Bool.and_eq_true_iff.mp hproper).1
  unfold makePath at h ⊢
  split at h
  · cases h
  · have hstart : t'.start path = t.start path := by
      rw [FileTree.start, FileTree.start, hworking]
    rw [hstart]
    refine makeDirectories_of_isDirectory hne ?_
    exact (isDirectory_of_makeDirectories hne h).imp_right (isDirectory_mono hdirectories)

theorem write_of_names (h : t.Names path directory name)
    (hplace : t.at? (directory ++ [name]) ≠ some .directory) (contents : List UInt8) :
    t.write path contents = .ok (t.set (directory ++ [name]) (.file contents)) := by
  obtain ⟨before, hnames, hwalk⟩ := h.walk
  have hlast : (FileTree.names path).getLast? ≠ some "" := by
    rw [hnames, List.getLast?_concat]
    exact fun heq ↦ h.isProper.ne_empty (Option.some.inj heq)
  have hnew : t.newPlace (t.start path) (FileTree.names path) = .ok (directory, some name) := by
    rw [hnames, newPlace_append hwalk h.isDirectory h.isProper.ne_empty,
      if_neg (not_or.mpr ⟨h.isProper.ne_dot, h.isProper.ne_dots⟩)]
  unfold write
  rw [h.fault]
  dsimp only
  rw [if_neg h.ne_empty, hnew, ok_bind]
  dsimp only
  rw [if_neg hlast, if_neg (Nat.not_lt.mpr h.isProper.length), if_neg hplace]
  rfl

/-- **Writing again** what has just been written changes nothing. -/
theorem writeInPlace_again (h : t.writeInPlace path contents = (t', .ok ())) :
    t'.writeInPlace path contents = (t', .ok ()) := by
  obtain ⟨made, hmake, hwrite⟩ := exists_of_writeInPlace h
  have hputs := write_puts hwrite
  have hagain : t'.makePath (parent path) = (t', .ok ()) :=
    makePath_again hmake hputs.directories
      (hputs.workingDirectory.trans (makePath_grows hmake).workingDirectory)
  obtain ⟨directory, name, hnames, hplace, rfl⟩ := exists_names_of_write hwrite
  have hnames' := hnames.mono hputs.directories rfl
  have hplace' : (made.set (directory ++ [name]) (.file contents)).at? (directory ++ [name]) ≠
      some .directory := by
    rw [at?_set _ _ _ (List.append_ne_nil_of_right_ne_nil _ (List.cons_ne_nil _ _)), if_pos rfl]
    exact nofun
  rw [writeInPlace, hagain]
  dsimp only
  rw [write_of_names hnames' hplace', set_set]

end LeagueStandings.FileTree
