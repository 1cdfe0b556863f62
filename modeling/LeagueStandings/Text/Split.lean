/-!
# Splitting at separators

A list of characters is cut at every separator; between two neighbouring separators stands an empty
piece, and there is always one piece more than there are separators.
-/

namespace LeagueStandings.Text

/-- The pieces between the characters that are separators. -/
def splitAt (isSeparator : Char → Bool) : List Char → List (List Char)
  | [] => [[]]
  | c :: rest =>
    if isSeparator c then [] :: splitAt isSeparator rest
    else match splitAt isSeparator rest with
      | [] => [[c]]
      | piece :: pieces => (c :: piece) :: pieces

theorem splitAt_ne_nil (isSeparator : Char → Bool) (cs : List Char) :
    splitAt isSeparator cs ≠ [] := by
  cases cs with
  | nil => simp [splitAt]
  | cons c rest =>
    unfold splitAt
    split
    · simp
    · split <;> simp

/-- The characters before the first separator, and those after it, if there is one. -/
def cutAt (separator : Char) (cs : List Char) : List Char × Option (List Char) :=
  (cs.takeWhile (· != separator),
    match cs.dropWhile (· != separator) with
    | [] => none
    | _ :: rest => some rest)

end LeagueStandings.Text
