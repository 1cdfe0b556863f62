import LeagueStandings.Binary64.Decimal

/-!
# TOML documents

A configuration file is a TOML document: statements that open tables and assign values to keys. A
document may say a thing only once, and the rules for that depend on how a table came about. It may
have been opened by a header, written as a value between braces, or only been passed through: by the
keys of a header, or by the dotted keys of an assignment. While statements are taken in, the tables
carry that with them (`TomlNode`); the finished document is a plain value (`Toml`).
-/

namespace LeagueStandings

/-- A TOML value. -/
inductive Toml
  | string (value : String)
  | integer (value : Int64)
  | float (value : Binary64)
  | boolean (value : Bool)
  /-- A date, a time or both. -/
  | dateTime
  | array (items : List Toml)
  | table (fields : List (String × Toml))

/-- A value in a document that may still grow. -/
inductive TomlNode
  /-- A finished value. -/
  | value (value : Toml)
  /-- A table. It is passed through if no header has opened it, and dotted if the keys of an
  assignment have made it. -/
  | table (passedThrough dotted : Bool) (fields : List (String × TomlNode))
  /-- The tables that headers in double brackets have opened, last first. -/
  | tables (items : List (List (String × TomlNode)))

namespace TomlNode

/-- The fields of a table. -/
abbrev Fields := List (String × TomlNode)

mutual

/-- The value of a node. -/
def toToml : TomlNode → Toml
  | value v => v
  | table _ _ fields => .table (fieldsToToml fields)
  | tables items => .array (itemsToToml items).reverse

/-- The values of the fields of a table. -/
def fieldsToToml : List (String × TomlNode) → List (String × Toml)
  | [] => []
  | (key, node) :: rest => (key, toToml node) :: fieldsToToml rest

/-- The values of several tables. -/
def itemsToToml : List (List (String × TomlNode)) → List Toml
  | [] => []
  | fields :: rest => .table (fieldsToToml fields) :: itemsToToml rest

end

namespace Fields

/-- The fields with the node of a key replaced. -/
def replace (fields : Fields) (key : String) (node : TomlNode) : Fields :=
  fields.map fun field ↦ if field.1 == key then (key, node) else field

/-- Changes the table to which the keys lead from a table, and makes the tables on the way. Keys of
an assignment (`dotted`) may only lead through tables that no header has opened. The change is told
whether the table is a dotted one. -/
def alter (dotted : Bool) (change : Bool → Fields → Option Fields) (selfDotted : Bool)
    (fields : Fields) : List String → Option Fields
  | [] => change selfDotted fields
  | key :: rest =>
    match fields.lookup key with
    | none => do
      let inner ← alter dotted change dotted [] rest
      some (fields ++ [(key, .table true dotted inner)])
    | some (.value _) => none
    | some (.table passedThrough innerDotted inner) =>
      if dotted && !passedThrough then none
      else do
        let inner ← alter dotted change innerDotted inner rest
        some (fields.replace key (.table passedThrough innerDotted inner))
    | some (.tables []) => none
    | some (.tables (last :: before)) => do
      let last ← alter dotted change false last rest
      some (fields.replace key (.tables (last :: before)))

/-- Assigns a value to the last of the keys of an assignment. A table that only dotted keys may fill
takes no plain key, and the other way round. -/
def assign (keys : List String) (value : Toml) (selfDotted : Bool) (fields : Fields) :
    Option Fields :=
  match keys.getLast? with
  | none => none
  | some key =>
    let plain := keys.length == 1
    alter true
      (fun isDotted fields ↦
        if isDotted == plain || (fields.lookup key).isSome then none
        else some (fields ++ [(key, .value value)]))
      selfDotted fields keys.dropLast

/-- Opens the table of a header: one that is new or was only passed through. -/
def openTable (keys : List String) (fields : Fields) : Option Fields :=
  match keys.getLast? with
  | none => none
  | some key =>
    alter false
      (fun _ fields ↦
        match fields.lookup key with
        | none => some (fields ++ [(key, .table false false [])])
        | some (.table true false inner) => some (fields.replace key (.table false false inner))
        | some _ => none)
      false fields keys.dropLast

/-- Opens one more table of a header in double brackets. -/
def openNext (keys : List String) (fields : Fields) : Option Fields :=
  match keys.getLast? with
  | none => none
  | some key =>
    alter false
      (fun _ fields ↦
        match fields.lookup key with
        | none => some (fields ++ [(key, .tables [[]])])
        | some (.tables items) => some (fields.replace key (.tables ([] :: items)))
        | some _ => none)
      false fields keys.dropLast

end Fields

end TomlNode

/-- A statement of a document. -/
inductive TomlStatement
  /-- A header in brackets. -/
  | header (keys : List String)
  /-- A header in double brackets. -/
  | arrayHeader (keys : List String)
  | assignment (keys : List String) (value : Toml)

namespace TomlStatement

/-- A document that is being taken in: its fields, and the keys of the header that is in force. -/
structure Reading where
  fields : TomlNode.Fields := []
  header : List String := []

/-- Takes in a statement. -/
def apply (r : Reading) : TomlStatement → Option Reading
  | header keys => (r.fields.openTable keys).map (⟨·, keys⟩)
  | arrayHeader keys => (r.fields.openNext keys).map (⟨·, keys⟩)
  | assignment keys value =>
    (r.fields.alter false (TomlNode.Fields.assign keys value) false r.header).map (⟨·, r.header⟩)

end TomlStatement

/-- The fields of the document that statements make. -/
def Toml.ofStatements? (statements : List TomlStatement) : Option (List (String × Toml)) :=
  (statements.foldlM TomlStatement.apply {}).map (TomlNode.fieldsToToml ·.fields)

/-- The table that assignments between braces make. -/
def Toml.ofAssignments? (assignments : List (List String × Toml)) : Option Toml :=
  (assignments.foldlM (fun fields (keys, value) ↦ TomlNode.Fields.assign keys value false fields)
    []).map fun fields ↦ .table (TomlNode.fieldsToToml fields)

end LeagueStandings
