/-!
# Integers as text

Integers are written in decimal with a minus sign below zero.
-/

namespace LeagueStandings.Text

/-- The characters of an integer in decimal. -/
def integerChars (n : Int) : List Char :=
  (if n < 0 then ['-'] else []) ++ Nat.toDigits 10 n.natAbs

/-- An integer in decimal. -/
def integer (n : Int) : String := String.ofList (integerChars n)

/-- A natural number below a hundred with two digits. -/
def twoDigits (n : Nat) : String :=
  String.ofList (if n < 10 then '0' :: Nat.toDigits 10 n else Nat.toDigits 10 n)

end LeagueStandings.Text
