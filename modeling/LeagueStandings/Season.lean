import LeagueStandings.Date
import LeagueStandings.Text.Blank
import LeagueStandings.Text.Integer

/-!
# Seasons

A season is named by a token such as `2025-26`. The statistics service gets the token as it was
given; only the word `current` stands for the season that contains a date. A season starts on the
first of October.
-/

namespace LeagueStandings

/-- A season, named by the token that the statistics service knows it by. -/
structure Season where
  token : String
deriving DecidableEq, Repr

namespace Season

/-- The year in which the season that contains a date starts. -/
def startYear (date : Date) : Int := if 10 ≤ date.month then date.year else date.year - 1

/-- The season that starts in a year: the year and the last two digits of the next one. -/
def startingIn (year : Int) : Season :=
  ⟨Text.integer year ++ "-" ++ Text.twoDigits ((year + 1) % 100).toNat⟩

/-- The season that contains a date. -/
def containing (date : Date) : Season := startingIn (startYear date)

/-- The token, without blanks around it, is the word `current` in any ASCII case. -/
def isCurrent (token : String) : Bool :=
  (Text.trim token).toList.map Char.toLower == "current".toList

/-- The season that a token asks for on a date. -/
def resolve (token : String) (today : Date) : Season :=
  if isCurrent token then containing today else ⟨Text.trim token⟩

end Season

end LeagueStandings
