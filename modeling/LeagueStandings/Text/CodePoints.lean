import LeagueStandings.Text.Split

/-!
# Sets and maps of characters

A property of characters is given by the code points at which it begins or ends to hold, in
ascending order: a code point has the property when an odd number of boundaries is not above it.
Where a property has several values, the code points are given at which a new value begins.

The larger tables are written as hexadecimal numbers between blanks, and a code point in them as its
distance from the one before it.
-/

namespace LeagueStandings.CodePoints

/-- The code point has the property with the given boundaries. -/
def mem (boundaries : List Nat) (n : Nat) : Bool :=
  (boundaries.takeWhile (· ≤ n)).length % 2 == 1

/-- The value of a code point, where `before` is the value below the first entry. -/
def valueAt (before : Nat) (entries : List (Nat × Nat)) (n : Nat) : Nat :=
  match entries with
  | [] => before
  | (start, value) :: rest => if n < start then before else valueAt value rest n

/-! ## Written tables -/

/-- The value of a hexadecimal digit in upper case. -/
def hexDigitValue (c : Char) : Nat :=
  if c.isDigit then c.toNat - '0'.toNat else c.toNat - 'A'.toNat + 10

/-- The numbers of a table. -/
def numbers (table : String) : List Nat :=
  let words := (Text.splitAt (fun c ↦ c == ' ' || c == '\n') table.toList).filter (· != [])
  words.map fun word ↦ word.foldl (fun value c ↦ value * 16 + hexDigitValue c) 0

/-- The code points that lie the given distances apart. -/
def sums (before : Nat) : List Nat → List Nat
  | [] => []
  | gap :: rest => (before + gap) :: sums (before + gap) rest

/-- The boundaries that a table of distances gives. -/
def boundaries (table : String) : List Nat := sums 0 (numbers table)

/-- The code points and values that a table of distances and values gives. -/
def values (table : String) : List (Nat × Nat) := go 0 (numbers table)
where
  /-- The entries after a code point. -/
  go (before : Nat) : List Nat → List (Nat × Nat)
    | gap :: value :: rest => (before + gap, value) :: go (before + gap) rest
    | _ => []

end LeagueStandings.CodePoints
