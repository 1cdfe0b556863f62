import LeagueStandings.Json.Writer
import LeagueStandings.Text.Blank
import LeagueStandings.Text.Quoted

/-!
# Reading cells

A column expects integers, numbers or text, and a cell is read as one of them or refused. In every
kind a null cell reads as nothing, and in a numeric column blank text does too. Numbers may be
spelled as text. A whole real number is accepted as an integer and is brought into the range of 64
bits.
-/

namespace LeagueStandings

/-- What a column expects of its cells. -/
inductive CellKind
  | integer
  | number
  | text
deriving DecidableEq, Repr

/-- A cell that a column does not accept. -/
structure CellRefusal where
  expected : CellKind
  found : Json

namespace CellKind

/-- The kind as a message names it. -/
def description : CellKind → String
  | integer => "an integer"
  | number => "a number"
  | text => "text"

end CellKind

/-- What a message says about a refused cell. -/
def CellRefusal.message (r : CellRefusal) : String :=
  let found :=
    match r.found with
    | .str s => Text.quote s
    | other => other.compact
  "expected " ++ r.expected.description ++ ", got " ++ found

/-- The integer that decimal digits with an optional sign spell, if 64 bits hold it. -/
def int64OfChars? (cs : List Char) : Option Int64 :=
  match Numeral.ofChars? cs with
  | none => none
  | some n =>
    if n.isPlain ∧ n.whole ≠ [] then Integer64.ofInt? n.integer else none

/-- The infinity or the NaN that a word names, in any case and with an optional sign. -/
def specialOfChars? (cs : List Char) : Option Binary64 :=
  let (sign, word) := Numeral.takeSign cs
  let word := word.map Char.toLower
  if word = "inf".toList ∨ word = "infinity".toList then some (.infinite (sign == some '-'))
  else if word = "nan".toList then some .nan
  else none

/-- The number that a numeral spells, if it has a digit on either side of the point, or that a word
names. -/
def binary64OfChars? (cs : List Char) : Option Binary64 :=
  match Numeral.ofChars? cs with
  | some n =>
    if n.whole = [] ∧ n.fraction.getD [] = [] then none else some n.binary64
  | none => specialOfChars? cs

namespace Json

/-- Reads a cell of an integer column. -/
def integerCell : Json → Except CellRefusal (Option Int64)
  | .null => .ok none
  | .num n =>
    match n.int64?, n.binary64.toInt? with
    | some i, _ => .ok (some i)
    | none, some i => .ok (some (Int64.ofIntClamp i))
    | none, none => .error ⟨.integer, .num n⟩
  | .str s =>
    if Text.isBlankText s then .ok none
    else match int64OfChars? (Text.trim s).toList with
      | some i => .ok (some i)
      | none => .error ⟨.integer, .str s⟩
  | other => .error ⟨.integer, other⟩

/-- Reads a cell of a column of numbers. -/
def numberCell : Json → Except CellRefusal (Option Binary64)
  | .null => .ok none
  | .num n => .ok (some n.binary64)
  | .str s =>
    if Text.isBlankText s then .ok none
    else match binary64OfChars? (Text.trim s).toList with
      | some x => .ok (some x)
      | none => .error ⟨.number, .str s⟩
  | other => .error ⟨.number, other⟩

/-- Reads a cell of a column of text; a number reads as its own text. -/
def textCell : Json → Except CellRefusal (Option String)
  | .null => .ok none
  | .str s => .ok (some s)
  | .num n => .ok (some (String.ofList n.chars))
  | other => .error ⟨.text, other⟩

end Json

end LeagueStandings
