import LeagueStandings.Json.Token
import LeagueStandings.Json.Value

/-!
# JSON trees

The shape of a JSON text, with its words and strings as they are spelled. Every text has a tree or
is malformed; how deep the tree is and which numbers and characters its leaves name does not matter
here. This is all that the skipped parts of a document are held to.

The reader keeps the containers that are still open in a list of its own, so no depth is too much
for it.
-/

namespace LeagueStandings

/-- The shape of a JSON value. -/
inductive JsonTree
  | word (spelling : List UInt8)
  | text (spelling : List UInt8)
  | list (items : List JsonTree)
  | record (fields : List (List UInt8 × JsonTree))

namespace Numeral

/-- The numeral is one that JSON allows: no plus sign, no superfluous zero in front, and digits on
both sides of a point. -/
def isJson (n : Numeral) : Bool :=
  n.sign != some '+' && n.whole != [] && (n.whole == ['0'] || n.whole.head? != some '0') &&
    n.fraction != some []

/-- Reads a JSON number. -/
def ofJson? (cs : List Char) : Option Numeral := (ofChars? cs).filter isJson

end Numeral

namespace JsonTree

/-- The characters of a word; a word that means something is ASCII. -/
def wordChars (spelling : List UInt8) : List Char := spelling.map fun b ↦ Char.ofNat b.toNat

/-- The word is `null`, `true`, `false` or a number. -/
def isWord (spelling : List UInt8) : Bool :=
  let cs := wordChars spelling
  cs == "null".toList || cs == "true".toList || cs == "false".toList ||
    (Numeral.ofJson? cs).isSome

/-- A container that is open around the place of reading, with what it holds so far, last first. -/
inductive Frame
  | list (before : List JsonTree)
  | record (before : List (List UInt8 × JsonTree)) (key : List UInt8)

/-- What the reader has just read, with the containers open around it, innermost first. -/
inductive Reader
  /-- A place where a value must follow. -/
  | value (around : List Frame)
  /-- The bracket that opens a list. -/
  | opened (around : List Frame)
  /-- An item of a list. -/
  | item (before : List JsonTree) (around : List Frame)
  /-- The bracket that opens a record. -/
  | openedRecord (around : List Frame)
  /-- The comma after a field. -/
  | nextField (before : List (List UInt8 × JsonTree)) (around : List Frame)
  /-- The key of a field. -/
  | keyed (before : List (List UInt8 × JsonTree)) (key : List UInt8) (around : List Frame)
  /-- A whole field. -/
  | field (before : List (List UInt8 × JsonTree)) (around : List Frame)
  /-- The outermost value. -/
  | done (tree : JsonTree)

namespace Reader

/-- Hands a finished value to the container around it. -/
def complete (tree : JsonTree) : List Frame → Reader
  | [] => done tree
  | .list before :: around => item (tree :: before) around
  | .record before key :: around => field ((key, tree) :: before) around

/-- Takes the first token of a value. -/
def start (around : List Frame) : JsonToken → Option Reader
  | .word spelling =>
    if isWord spelling then some (complete (.word spelling) around) else none
  | .text spelling => some (complete (.text spelling) around)
  | .openList => some (opened around)
  | .openRecord => some (openedRecord around)
  | _ => none

/-- Takes one token. -/
def step (r : Reader) (token : JsonToken) : Option Reader :=
  match r, token with
  | value around, token => start around token
  | opened around, .closeList => some (complete (.list []) around)
  | opened around, token => start (.list [] :: around) token
  | item before around, .comma => some (value (.list before :: around))
  | item before around, .closeList => some (complete (.list before.reverse) around)
  | openedRecord around, .closeRecord => some (complete (.record []) around)
  | openedRecord around, .text spelling => some (keyed [] spelling around)
  | nextField before around, .text spelling => some (keyed before spelling around)
  | keyed before spelling around, .colon => some (value (.record before spelling :: around))
  | field before around, .comma => some (nextField before around)
  | field before around, .closeRecord => some (complete (.record before.reverse) around)
  | _, _ => none

end Reader

/-- The tree of a sequence of tokens, unless they do not form exactly one value. -/
def ofTokens? (tokens : List JsonToken) : Option JsonTree :=
  match tokens.foldlM Reader.step (.value []) with
  | some (.done tree) => some tree
  | _ => none

/-- The tree of a JSON text, unless it is malformed. -/
def ofBytes? (bytes : List UInt8) : Option JsonTree := (JsonToken.scan? bytes).bind ofTokens?

end JsonTree

end LeagueStandings
