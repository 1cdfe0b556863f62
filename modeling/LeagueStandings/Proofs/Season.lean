import LeagueStandings.Proofs.Text.Integer
import LeagueStandings.Season
import Mathlib.Data.Prod.Lex
import Mathlib.Order.Interval.Set.Defs

/-!
# The season of a date

The seasons divide the calendar: each date lies in the days of exactly one season, namely the one
that starts in its start year (`mem_days_iff`). And seasons that start in different years have
different tokens (`startingIn_injective`), although the second half of a token repeats every hundred
years: the first half is the whole year.

So dates have equal seasons exactly if they lie in the days of one (`containing_eq_iff`).
-/

namespace LeagueStandings

namespace Date

/-- The numbers of a date in the order in which they are compared. -/
def key (date : Date) : Int ×ₗ Nat ×ₗ Nat := toLex (date.year, toLex (date.month, date.day))

theorem key_injective : Function.Injective key := by
  rintro ⟨year, month, day, _, _⟩ ⟨year', month', day', _, _⟩ h
  cases h
  rfl

/-- Dates follow each other by year, month and day. -/
instance : LinearOrder Date := LinearOrder.lift' key key_injective

theorem le_iff {date other : Date} :
    date ≤ other ↔ date.year < other.year ∨ date.year = other.year ∧
      (date.month < other.month ∨ date.month = other.month ∧ date.day ≤ other.day) := by
  change key date ≤ key other ↔ _
  rw [key, key, Prod.Lex.toLex_le_toLex, Prod.Lex.toLex_le_toLex]

end Date

namespace Season

/-- The first of October. -/
def firstDay (year : Int) : Date := ⟨year, 10, 1, by decide, by decide, show 1 ≤ 31 by decide⟩

/-- The thirtieth of September of the next year. -/
def lastDay (year : Int) : Date := ⟨year + 1, 9, 30, by decide, by decide, show 30 ≤ 30 by decide⟩

/-- The days of the season that starts in a year. -/
def days (year : Int) : Set Date := Set.Icc (firstDay year) (lastDay year)

theorem firstDay_le_iff {date : Date} {year : Int} :
    firstDay year ≤ date ↔ year < date.year ∨ year = date.year ∧ 10 ≤ date.month := by
  rw [Date.le_iff]
  change year < date.year ∨ year = date.year ∧
    (10 < date.month ∨ 10 = date.month ∧ 1 ≤ date.day) ↔ _
  have hday := date.day_mem.1
  omega

theorem le_lastDay_iff {date : Date} {year : Int} :
    date ≤ lastDay year ↔ date.year < year + 1 ∨ date.year = year + 1 ∧ date.month < 10 := by
  have hday : date.month = 9 → date.day ≤ 30 := by
    intro h
    have hmem := date.day_mem.2
    rwa [h] at hmem
  rw [Date.le_iff]
  change date.year < year + 1 ∨ date.year = year + 1 ∧
    (date.month < 9 ∨ date.month = 9 ∧ date.day ≤ 30) ↔ _
  omega

/-- A date lies in the days of the season that starts in its start year, and in no others. -/
theorem mem_days_iff {date : Date} {year : Int} : date ∈ days year ↔ startYear date = year := by
  rw [days, Set.mem_Icc, firstDay_le_iff, le_lastDay_iff, startYear]
  by_cases h : 10 ≤ date.month
  · rw [if_pos h]
    omega
  · rw [if_neg h]
    omega

theorem startingIn_injective : Function.Injective startingIn := by
  intro year other h
  have htoken := congrArg (fun season : Season ↦ season.token.toList) h
  have hmod : ∀ n : Int, (n % 100).toNat < 100 := by
    intro n
    omega
  simp only [startingIn, Text.twoDigits_eq (hmod _), Text.integer, String.toList_append,
    String.toList_ofList, List.append_assoc] at htoken
  -- What follows the year is three characters long in both.
  exact Text.integerChars_injective (List.append_inj_left' htoken rfl)

/-- The token of a season is the year, a hyphen, and the last two digits of the next year. -/
theorem token_startingIn (year : Int) :
    (startingIn year).token = toString year ++ "-" ++
      String.ofList [Nat.digitChar (((year + 1) % 100).toNat / 10),
        Nat.digitChar (((year + 1) % 100).toNat % 10)] := by
  rw [startingIn, Text.integer_eq_toString, Text.twoDigits_eq (by omega)]

/-- **When two dates have one season.** The seasons of two dates are equal exactly if both dates
lie in the days from the first of October of a year to the thirtieth of September of the next one.
The token is then that year, a hyphen, and two digits for the next year modulo a hundred. -/
theorem containing_eq_iff (date other : Date) :
    (containing date = containing other ↔ ∃ year, date ∈ days year ∧ other ∈ days year) ∧
    ∀ year, date ∈ days year →
      (containing date).token = toString year ++ "-" ++
        String.ofList [Nat.digitChar (((year + 1) % 100).toNat / 10),
          Nat.digitChar (((year + 1) % 100).toNat % 10)] := by
  constructor
  · rw [containing, containing, startingIn_injective.eq_iff]
    simp only [mem_days_iff]
    constructor
    · intro h
      exact ⟨startYear other, h, rfl⟩
    · rintro ⟨year, hdate, hother⟩
      exact hdate.trans hother.symm
  · intro year hdate
    rw [containing, mem_days_iff.mp hdate, token_startingIn]

/-- The season around the turn to the year 0 contains its first and its last day. The season a
century later, whose token ends with the same digits, is another one. -/
theorem containing_eq_iff_turn :
    containing (firstDay (-1)) = containing (lastDay (-1)) ∧
      containing (firstDay (-1)) ≠ containing (firstDay 99) ∧
      (containing (lastDay (-1))).token = "-1-00" := by
  have hfirst : firstDay (-1) ∈ days (-1) := mem_days_iff.mpr (by decide)
  have hlast : lastDay (-1) ∈ days (-1) := mem_days_iff.mpr (by decide)
  refine ⟨(containing_eq_iff _ _).1.mpr ⟨-1, hfirst, hlast⟩, fun h ↦ ?_, ?_⟩
  · obtain ⟨year, hyear, hother⟩ := (containing_eq_iff _ _).1.mp h
    rw [mem_days_iff] at hyear hother
    exact absurd (hyear.trans hother.symm) (by decide)
  · exact ((containing_eq_iff _ (lastDay (-1))).2 (-1) hlast).trans (by decide)

end Season

end LeagueStandings
