import LeagueStandings.Binary64.Basic
import LeagueStandings.Text.Integer

/-!
# A fixed number of decimal places

Reports for people show points per game with one decimal place. The exact value is rounded, a tie
going to the even neighbour.
-/

namespace LeagueStandings.Binary64

/-- The number with one decimal place. -/
def onePlaceText : Binary64 → String
  | nan => "NaN"
  | infinite negative => if negative then "-inf" else "inf"
  | finite negative x =>
    let tenths := roundDiv (x.units * 10) Magnitude.unitsPerOne
    let sign := if negative then "-" else ""
    sign ++ Text.integer (tenths / 10 : Nat) ++ "." ++ Text.integer (tenths % 10 : Nat)

end LeagueStandings.Binary64
