import LeagueStandings.Binary64.Shortest
import LeagueStandings.Integer64

/-!
# JSON values

A cell of a statistics table is any JSON value, and the written files are JSON. Numbers keep the
distinction that the statistics service makes: an integer and a real number of the same value are
different cells.

Objects are lists of fields in written order. A record is written in the order of its fields; an
object that was read loosely has its keys sorted (`Json.ofFields`).
-/

namespace LeagueStandings

/-- The integers that have 64 bits, signed or unsigned. -/
abbrev FitsWord (n : Int) : Prop := -0x8000000000000000 ≤ n ∧ n < 0x10000000000000000

/-- A JSON number: an integer of up to 64 bits, signed or unsigned, or a finite binary64 number. -/
inductive JsonNumber
  | integer (value : Int) (fitsWord : FitsWord value)
  | real (negative : Bool) (magnitude : Magnitude)
deriving DecidableEq, Repr

namespace JsonNumber

/-- The number as a binary64 number, an integer being rounded to the nearest. -/
def binary64 : JsonNumber → Binary64
  | integer value _ => .ofInt value
  | real negative magnitude => .finite negative magnitude

/-- The value of an integer that fits into 64 bits with sign. -/
def int64? : JsonNumber → Option Int64
  | integer value _ => Integer64.ofInt? value
  | real _ _ => none

/-- The number of a 64-bit integer. -/
def ofInt64 (n : Int64) : JsonNumber :=
  integer n.toInt ⟨Int.le_trans (by decide) n.le_toInt, Int.lt_trans n.toInt_lt (by decide)⟩

end JsonNumber

/-- A JSON value. -/
inductive Json
  | null
  | bool (value : Bool)
  | num (value : JsonNumber)
  | str (value : String)
  | arr (items : List Json)
  | obj (fields : List (String × Json))

namespace Json

/-- A 64-bit integer as JSON. -/
def int64 (n : Int64) : Json := num (.ofInt64 n)

/-- A binary64 number as JSON; JSON has no infinity and no NaN, so they are null. -/
def binary64 : Binary64 → Json
  | .finite negative magnitude => num (.real negative magnitude)
  | _ => null

/-- The fields with `key` set to `value`, in the order of the keys' bytes. -/
def insertField (key : String) (value : Json) : List (String × Json) → List (String × Json)
  | [] => [(key, value)]
  | (k, v) :: rest =>
    if key < k then (key, value) :: (k, v) :: rest
    else if key = k then (key, value) :: rest
    else (k, v) :: insertField key value rest

/-- The object with the given fields: its keys are sorted, and of several fields with one key the
last counts. -/
def ofFields (fields : List (String × Json)) : Json :=
  obj (fields.foldl (fun done field ↦ insertField field.1 field.2 done) [])

end Json

end LeagueStandings
