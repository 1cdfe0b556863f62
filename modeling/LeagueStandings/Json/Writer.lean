import LeagueStandings.Json.Value
import LeagueStandings.Text.Integer

/-!
# Writing JSON

Two layouts of one text: compact, without any blank, and pretty, with one item a line and two more
blanks for each level. Both are lists of characters until the end, so that a writer is a recursion
on the value and nothing else.

A string is escaped only where it must be: the quote, the backslash and the control characters
below the blank. A real number has its shortest digits, positional from `10 ^ -5` up to below
`10 ^ 16` and always with a point, and an exponent outside that range.
-/

namespace LeagueStandings

/-- A hexadecimal digit in lower case. -/
def hexDigit (n : Nat) : Char := Nat.digitChar (n % 16)

namespace JsonNumber

/-- The text of a finite real number. -/
def realChars (d : Decimal) : List Char :=
  if d.coefficient = 0 then d.signChars ++ ['0', '.', '0']
  else if -5 < d.scale ∧ d.scale ≤ 16 then
    d.positional ++ (if 0 ≤ d.exponent then ['.', '0'] else [])
  else d.scientific

/-- The text of a number. -/
def chars : JsonNumber → List Char
  | integer value _ => Text.integerChars value
  | real negative magnitude => realChars (magnitude.shortest negative)

end JsonNumber

namespace Json

/-- One character of a string literal. -/
def escapeChar (c : Char) : List Char :=
  if c = '"' then ['\\', '"']
  else if c = '\\' then ['\\', '\\']
  else if c = '\n' then ['\\', 'n']
  else if c = '\r' then ['\\', 'r']
  else if c = '\t' then ['\\', 't']
  else if c = '\x08' then ['\\', 'b']
  else if c = '\x0c' then ['\\', 'f']
  else if c.toNat < 0x20 then
    ['\\', 'u', '0', '0', hexDigit (c.toNat / 16), hexDigit c.toNat]
  else [c]

/-- A string literal. -/
def quote (s : String) : List Char := '"' :: s.toList.flatMap escapeChar ++ ['"']

/-- Puts `separator` between the pieces. -/
def separated (separator : List Char) : List (List Char) → List Char
  | [] => []
  | [piece] => piece
  | piece :: rest => piece ++ separator ++ separated separator rest

mutual

/-- The value without any blank. -/
def compactChars : Json → List Char
  | null => "null".toList
  | bool value => (if value then "true" else "false").toList
  | num value => value.chars
  | str value => quote value
  | arr items => '[' :: separated [','] (compactItems items) ++ [']']
  | obj fields => '{' :: separated [','] (compactFields fields) ++ ['}']

/-- The items of an array, each without any blank. -/
def compactItems : List Json → List (List Char)
  | [] => []
  | item :: rest => compactChars item :: compactItems rest

/-- The fields of an object, each without any blank. -/
def compactFields : List (String × Json) → List (List Char)
  | [] => []
  | (key, value) :: rest => (quote key ++ ':' :: compactChars value) :: compactFields rest

end

/-- A line break and two blanks for each level. -/
def lineBreak (level : Nat) : List Char := '\n' :: List.replicate (2 * level) ' '

/-- Brackets around pieces that stand on lines of their own, one level deeper. -/
def block (opening closing : Char) (level : Nat) (pieces : List (List Char)) : List Char :=
  if pieces = [] then [opening, closing]
  else
    opening :: lineBreak (level + 1) ++ separated (',' :: lineBreak (level + 1)) pieces ++
      lineBreak level ++ [closing]

mutual

/-- The value with one item a line, where its own first line stands at the given level. -/
def prettyChars (level : Nat) : Json → List Char
  | arr items => block '[' ']' level (prettyItems (level + 1) items)
  | obj fields => block '{' '}' level (prettyFields (level + 1) fields)
  | value => compactChars value

/-- The items of an array with one item a line. -/
def prettyItems (level : Nat) : List Json → List (List Char)
  | [] => []
  | item :: rest => prettyChars level item :: prettyItems level rest

/-- The fields of an object with one field a line. -/
def prettyFields (level : Nat) : List (String × Json) → List (List Char)
  | [] => []
  | (key, value) :: rest =>
    (quote key ++ ':' :: ' ' :: prettyChars level value) :: prettyFields level rest

end

/-- The JSON text without any blank. -/
def compact (value : Json) : String := String.ofList value.compactChars

/-- The JSON text with one item a line and an indentation of two blanks. -/
def pretty (value : Json) : String := String.ofList (value.prettyChars 0)

end Json

end LeagueStandings
