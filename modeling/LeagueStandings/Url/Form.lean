import LeagueStandings.Url.Percent

/-!
# Form-encoded pairs

The parameters of a request are pairs of a name and a value, written `name=value` with `&` between
two pairs. Letters, digits and four signs are kept, a blank becomes `+`, and every other byte is
percent-encoded, so neither `&` nor `=` nor `#` can come from a name or a value.
-/

namespace LeagueStandings.Form

/-- Kept in a name or a value. -/
def isKept (c : Char) : Bool :=
  c.isAlphanum || c == '*' || c == '-' || c == '.' || c == '_'

/-- A character of a name or a value. -/
def encodeChar (c : Char) : List Char := if c = ' ' then ['+'] else Percent.encodeChar isKept c

/-- A name or a value. -/
def encode (text : String) : List Char := text.toList.flatMap encodeChar

/-- A pair. -/
def encodePair (pair : String × String) : List Char := encode pair.1 ++ '=' :: encode pair.2

/-- Adds pairs to a query. -/
def append (query : List Char) (pairs : List (String × String)) : List Char :=
  pairs.foldl
    (fun query pair ↦ query ++ (if query = [] then [] else ['&']) ++ encodePair pair) query

end LeagueStandings.Form
