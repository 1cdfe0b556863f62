import LeagueStandings.Json.BestEffort
import LeagueStandings.Json.Text
import LeagueStandings.Json.Tree

/-!
# Decoding JSON trees

A decoder turns a tree into a value of a type, or refuses it. At most 127 containers may be open
around any decoded place, counted from the outermost; the count that is left travels down as
`depth`. Skipped parts of a record are not decoded and so not counted.

A record may also be written as the list of its fields in order; then none may be missing.
-/

namespace LeagueStandings

namespace JsonNumber

/-- The number of a JSON numeral, unless it lies beyond the finite range. Without a point and an
exponent it is an integer if it fits; negative zero is real. -/
def ofNumeral? (n : Numeral) : Option JsonNumber :=
  if h : FitsWord n.integer then
    if n.isPlain && !(n.isNegative && n.integer == 0) then some (integer n.integer h)
    else n.bestEffort?.map (real n.isNegative)
  else n.bestEffort?.map (real n.isNegative)

end JsonNumber

namespace JsonTree

/-- A way to read values of a type from trees, when `depth` containers may still be opened. -/
abbrev Decoder (α : Type) := (depth : Nat) → JsonTree → Option α

/-- The value of a word. -/
def wordValue? (spelling : List UInt8) : Option Json :=
  let cs := wordChars spelling
  if cs = "null".toList then some .null
  else if cs = "true".toList then some (.bool true)
  else if cs = "false".toList then some (.bool false)
  else (Numeral.ofJson? cs).bind fun n ↦ (JsonNumber.ofNumeral? n).map .num

mutual

/-- Any JSON value. -/
def value? (depth : Nat) : JsonTree → Option Json
  | word spelling => wordValue? spelling
  | text spelling => (JsonText.decode? spelling).map .str
  | list items =>
    match depth with
    | 0 => none
    | depth + 1 => (values? depth items).map .arr
  | record fields =>
    match depth with
    | 0 => none
    | depth + 1 => (valueFields? depth fields).map .ofFields

/-- A list of JSON values. -/
def values? (depth : Nat) : List JsonTree → Option (List Json)
  | [] => some []
  | item :: rest => do
    let item ← value? depth item
    let rest ← values? depth rest
    some (item :: rest)

/-- A list of fields with any JSON values. -/
def valueFields? (depth : Nat) : List (List UInt8 × JsonTree) → Option (List (String × Json))
  | [] => some []
  | (key, item) :: rest => do
    let key ← JsonText.decode? key
    let item ← value? depth item
    let rest ← valueFields? depth rest
    some ((key, item) :: rest)

end

/-- A number. -/
def number? : JsonTree → Option JsonNumber
  | word spelling =>
    match wordValue? spelling with
    | some (.num n) => some n
    | _ => none
  | _ => none

/-- An integer of 64 bits with sign. -/
def int64? : Decoder Int64 := fun _ tree ↦ tree.number?.bind JsonNumber.int64?

/-- A number of any kind, as a binary64 number. -/
def binary64? : Decoder Binary64 := fun _ tree ↦ tree.number?.map JsonNumber.binary64

/-- A string. -/
def string? : Decoder String
  | _, text spelling => JsonText.decode? spelling
  | _, _ => none

/-- The word `null`. -/
def isNull : JsonTree → Bool
  | word spelling => wordChars spelling == "null".toList
  | _ => false

/-- Either `null` or what the decoder reads. -/
def nullable? {α : Type} (decoder : Decoder α) : Decoder (Option α) := fun depth tree ↦
  if tree.isNull then some none else (decoder depth tree).map some

/-- A list of items. -/
def list? {α : Type} (decoder : Decoder α) : Decoder (List α)
  | depth + 1, list items => items.mapM (decoder depth)
  | _, _ => none

/-- The fields of a record that have one of the given keys, each key at most once; or, from a list,
all of them in order. -/
def fields? (keys : List String) : JsonTree → Option (List (String × JsonTree))
  | record fields => do
    let fields ← fields.mapM fun (key, tree) ↦ (JsonText.decode? key).map (·, tree)
    let known := fields.filter fun field ↦ keys.contains field.1
    if (known.map Prod.fst).Nodup then some known else none
  | list items => if items.length = keys.length then some (keys.zip items) else none
  | _ => none

/-- A record with the given keys, of which `decoder` makes a value. -/
def record? {α : Type} (keys : List String)
    (decoder : (depth : Nat) → List (String × JsonTree) → Option α) : Decoder α
  | depth + 1, tree => (tree.fields? keys).bind (decoder depth)
  | _, _ => none

/-- The field with the key, which must be there. -/
def required? {α : Type} (decoder : Decoder α) (depth : Nat) (fields : List (String × JsonTree))
    (key : String) : Option α :=
  (fields.lookup key).bind (decoder depth)

/-- The field with the key; a missing field reads as the default. -/
def defaulted? {α : Type} (default : α) (decoder : Decoder α) (depth : Nat)
    (fields : List (String × JsonTree)) (key : String) : Option α :=
  match fields.lookup key with
  | none => some default
  | some tree => decoder depth tree

/-- The field with the key; a missing field and `null` both read as nothing. -/
def optional? {α : Type} (decoder : Decoder α) (depth : Nat) (fields : List (String × JsonTree))
    (key : String) : Option (Option α) :=
  defaulted? none (nullable? decoder) depth fields key

/-- The number of containers that may be open around a decoded place. -/
def depthLimit : Nat := 127

/-- Reads a JSON text with a decoder. -/
def decode? {α : Type} (decoder : Decoder α) (bytes : List UInt8) : Option α :=
  (ofBytes? bytes).bind (decoder depthLimit)

end JsonTree

/-- Any JSON value from its text. -/
def Json.ofBytes? (bytes : List UInt8) : Option Json := JsonTree.decode? JsonTree.value? bytes

end LeagueStandings
