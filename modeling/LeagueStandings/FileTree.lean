import LeagueStandings.Failure
import LeagueStandings.Text.Split

/-!
# A tree of files

The files that the runs read and write, as a value. The tree is a list of entries, each under its
location: the names that lead to it from the root. The root is always there, and the names of an
entry's location lead through directories.

Paths are texts and are followed name by name, as an operating system does, from the root if they
start with a slash and else from the working directory. An empty name and `.` stay where they are,
`..` leads one level up, and each of them needs a directory to stand in. Names and whole paths have
a greatest length, in bytes.

## Views

`at?` is the view of the tree, and the two operations that change an entry are described by
what they do to it (`at?_set`, `at?_remove`).
-/

namespace LeagueStandings

/-- What stands at a location. -/
inductive FileEntry
  | file (contents : List UInt8)
  | directory
deriving DecidableEq, Repr

/-- The names that lead from the root to an entry. -/
abbrev Location := List String

/-- Files and directories, and the directory from which paths are followed. -/
structure FileTree where
  entries : List (Location × FileEntry)
  workingDirectory : Location
deriving DecidableEq, Repr

namespace FileTree

/-- The tree with nothing in it but the directories that lead to the working directory. -/
def workingIn (location : Location) : FileTree where
  entries := (List.range' 1 location.length).map fun n ↦ (location.take n, .directory)
  workingDirectory := location

/-- What stands at a location, if anything does. -/
def at? (t : FileTree) (location : Location) : Option FileEntry :=
  if location = [] then some .directory else t.entries.lookup location

/-- The tree with an entry at a location. -/
def set (t : FileTree) (location : Location) (entry : FileEntry) : FileTree :=
  { t with entries := (location, entry) :: t.entries.filter (·.1 != location) }

/-- The tree without a location and everything below it. -/
def remove (t : FileTree) (location : Location) : FileTree :=
  { t with entries := t.entries.filter fun e ↦ !location.isPrefixOf e.1 }

private theorem lookup_filter (keep : Location → Bool) (entries : List (Location × FileEntry))
    (location : Location) :
    (entries.filter fun e ↦ keep e.1).lookup location =
      if keep location then entries.lookup location else none := by
  induction entries with
  | nil => simp
  | cons e rest ih =>
    obtain ⟨place, entry⟩ := e
    cases h : location == place with
    | true =>
      obtain rfl := eq_of_beq h
      cases hk : keep location <;> simp [hk, ih]
    | false => cases hp : keep place <;> simp [List.lookup_cons, hp, h, ih]

/-- Setting an entry changes what stands at its location and nothing else. -/
theorem at?_set (t : FileTree) {location : Location} (other : Location) (entry : FileEntry)
    (h : location ≠ []) :
    (t.set location entry).at? other =
      if other = location then some entry else t.at? other := by
  by_cases hr : other = []
  · simp [at?, hr, Ne.symm h]
  · simp only [at?, hr, if_false, set]
    by_cases ho : other = location
    · simp [ho]
    · have hb : (other == location) = false := by simpa using ho
      rw [List.lookup_cons, hb, if_neg ho]
      simpa [ho] using lookup_filter (· != location) t.entries other

/-- Removing a location takes away what stands there and below and nothing else. -/
theorem at?_remove (t : FileTree) (location : Location) {other : Location} (h : other ≠ []) :
    (t.remove location).at? other =
      if location.isPrefixOf other then none else t.at? other := by
  simp only [at?, h, if_false, remove]
  rw [lookup_filter fun place ↦ !location.isPrefixOf place]
  cases location.isPrefixOf other <;> simp

/-! ## Paths -/

/-- The names of a path between its slashes. -/
def names (path : String) : List String :=
  (Text.splitAt (· == '/') path.toList).map String.ofList

/-- The names of a path that lead further: no empty ones and no dots. -/
def properNames (path : String) : List String :=
  (names path).filter fun name ↦ name != "" && name != "."

/-- The path without its last name; it is empty if there is no other. -/
def parent (path : String) : String :=
  let stays := fun name : String ↦ name == "" || name == "."
  "/".intercalate (((names path).reverse.dropWhile stays).drop 1 |>.dropWhile stays).reverse

/-- How many bytes a name may have. -/
def longestName : Nat := 255

/-- How many bytes a path may have. -/
def longestPath : Nat := 4095

/-- What is wrong with the text of a path, wherever it may lead. -/
def fault? (path : String) : Option FileError :=
  if path.toList.contains '\x00' then some .nulInPath
  else if longestPath < path.utf8ByteSize then some .nameTooLong
  else none

/-- The path starts at the root. -/
def isAbsolute (path : String) : Bool := path.toList.head? == some '/'

/-- Where a path starts. -/
def start (t : FileTree) (path : String) : Location :=
  if isAbsolute path then [] else t.workingDirectory

/-- Follows names from a location. Every name needs a directory to stand in; whether anything
stands at the end is not asked. -/
def walk (t : FileTree) : Location → List String → Except FileError Location
  | location, [] => .ok location
  | location, name :: rest =>
    match t.at? location with
    | none => .error .notFound
    | some (.file _) => .error .notADirectory
    | some .directory =>
      if name = "" ∨ name = "." then t.walk location rest
      else if name = ".." then t.walk location.dropLast rest
      else if longestName < name.utf8ByteSize then .error .nameTooLong
      else t.walk (location ++ [name]) rest

/-- Where a path leads; the empty path leads nowhere. -/
def locate (t : FileTree) (path : String) : Except FileError Location :=
  match fault? path with
  | some e => .error e
  | none => if path = "" then .error .notFound else t.walk (t.start path) (names path)

/-- What a path leads to. -/
def find? (t : FileTree) (path : String) : Option FileEntry :=
  match t.locate path with
  | .ok location => t.at? location
  | .error _ => none

/-- Where something new would stand, given the names that lead to it from a location: the directory
around it and its own name. There is no name if the names can only mean a directory that is already
there. -/
def newPlace (t : FileTree) (start : Location) (names : List String) :
    Except FileError (Location × Option String) :=
  match names.reverse.dropWhile (· == "") with
  | [] => .ok (start, none)
  | name :: before => do
    let location ← t.walk start (before.reverse ++ ["."])
    return (location, if name = "." ∨ name = ".." then none else some name)

/-! ## Operations -/

/-- The contents of a file. -/
def read (t : FileTree) (path : String) : Except FileError (List UInt8) := do
  match t.at? (← t.locate path) with
  | none => .error .notFound
  | some .directory => .error .isADirectory
  | some (.file contents) => .ok contents

/-- The tree with a file at the path, in a directory that is already there. A path with a slash at
its end can only mean a directory. -/
def write (t : FileTree) (path : String) (contents : List UInt8) : Except FileError FileTree := do
  if let some e := fault? path then throw e
  if path = "" then throw .notFound
  match ← t.newPlace (t.start path) (names path) with
  | (_, none) => throw .isADirectory
  | (location, some name) =>
    if (names path).getLast? = some "" then throw .isADirectory
    if longestName < name.utf8ByteSize then throw .nameTooLong
    let location := location ++ [name]
    if t.at? location = some .directory then throw .isADirectory
    return t.set location (.file contents)

/-- The tree with a new directory, in a directory that is already there. -/
def makeDirectory (t : FileTree) (start : Location) (names : List String) :
    Except FileError FileTree := do
  match ← t.newPlace start names with
  | (_, none) => throw .alreadyExists
  | (location, some name) =>
    if longestName < name.utf8ByteSize then throw .nameTooLong
    let location := location ++ [name]
    if (t.at? location).isSome then throw .alreadyExists
    return t.set location .directory

/-- The names lead to a directory. -/
def isDirectory (t : FileTree) (start : Location) (names : List String) : Bool :=
  match t.walk start names with
  | .ok location => t.at? location == some .directory
  | .error _ => false

/-- Makes a directory unless it is there; the names that lead to it come last first. Where a
directory around it is missing, that one is made first. What was made stays, even if a later
directory cannot be made. -/
def makeDirectories (t : FileTree) (start : Location) :
    List String → FileTree × Except FileError Unit
  | [] => (t, .ok ())
  | name :: before =>
    let names := (name :: before).reverse
    match t.makeDirectory start names with
    | .ok t => (t, .ok ())
    | .error .notFound =>
      match t.makeDirectories start before with
      | (t, .error e) => (t, .error e)
      | (t, .ok ()) =>
        match t.makeDirectory start names with
        | .ok t => (t, .ok ())
        | .error e => (t, if t.isDirectory start names then .ok () else .error e)
    | .error e => (t, if t.isDirectory start names then .ok () else .error e)

/-- Makes the directory that a path means, and the directories around it. -/
def makePath (t : FileTree) (path : String) : FileTree × Except FileError Unit :=
  match fault? path with
  | some e => (t, .error e)
  | none => t.makeDirectories (t.start path) (properNames path).reverse

/-- Writes a file, after the directories around it have been made. -/
def writeInPlace (t : FileTree) (path : String) (contents : List UInt8) :
    FileTree × Except FileError Unit :=
  match t.makePath (parent path) with
  | (t, .error e) => (t, .error e)
  | (t, .ok ()) =>
    match t.write path contents with
    | .ok t => (t, .ok ())
    | .error e => (t, .error e)

/-! ## Joining paths -/

/-- The path of something in a directory; a path from the root stands for itself. -/
def join (directory path : String) : String :=
  if isAbsolute path ∨ directory = "" then path
  else if directory.toList.getLast? = some '/' then directory ++ path
  else directory ++ "/" ++ path

end FileTree

end LeagueStandings
