import LeagueStandings.Proofs.Binary64.Order
import LeagueStandings.Proofs.Standings.Outcomes

/-!
# Ranges of points that some row fits

A range of points can be of use only if its lower bound is at most its upper one. Then it contains
the lower bound, and a row with just these points is retained (`retainsSome_iff`). A range without
that order contains nothing, and every table is normalized to no rows at all.

Among the ranges of no use are those with a NaN bound, since NaN is not at most anything.
-/

namespace LeagueStandings

namespace PointsRange

variable {range : PointsRange} {x : Binary64}

theorem contains_iff :
    range.contains x = true ↔ range.lowest.le x = true ∧ x.le range.highest = true := by
  simp [contains]

theorem contains_lowest_iff :
    range.contains range.lowest = true ↔ range.lowest.le range.highest = true := by
  rw [contains_iff, Binary64.le_self_iff]
  exact and_iff_right_of_imp fun h ↦ (Binary64.ne_nan_of_le h).1

theorem le_of_contains (h : range.contains x = true) :
    range.lowest.le range.highest = true := by
  obtain ⟨hlowest, hhighest⟩ := contains_iff.mp h
  exact Binary64.le_trans hlowest hhighest

end PointsRange

/-! ## A row with given points -/

/-- A cell that spells a number. -/
def Json.spelling : Binary64 → Json
  | .nan => .str "nan"
  | .infinite negative => .str (if negative then "-inf" else "inf")
  | .finite negative magnitude => .num (.real negative magnitude)

theorem Json.numberCell_spelling (x : Binary64) : (spelling x).numberCell = .ok (some x) := by
  rcases x with _ | ⟨_ | _⟩ | _
  all_goals rfl

namespace Table

/-- The one row of a table: a team and its points, and nothing else. -/
def pointsRow (x : Binary64) : List Json :=
  standingsColumns.map fun column ↦
    if column = teamIdColumn then .int64 1
    else if column = "PointsPG" then .spelling x
    else .null

/-- A table with all the wanted columns and that one row. -/
def ofPoints (x : Binary64) : Table := ⟨"Standings", standingsColumns, [pointsRow x]⟩

/-- What the row says. -/
def pointsLine (x : Binary64) : StandingsRow where
  sourceTeamId := 1
  city := .null
  name := .null
  conference := .null
  division := .null
  wins := .null
  losses := .null
  winPct := .null
  points := x
  opponentPoints := .null
  pointsDifference := .null
  fullName := .null
  teamId := 1

theorem points_pointsRow (x : Binary64) : (ofPoints x).points (pointsRow x) = .ok (some x) :=
  Json.numberCell_spelling x

theorem readsFrom_pointsRow (x : Binary64) (index : Nat) :
    (pointsLine x).ReadsFrom ((ofPoints x).sourceCell? (pointsRow x)) index where
  sourceTeamId := rfl
  city := rfl
  name := rfl
  conference := rfl
  division := rfl
  wins := rfl
  losses := rfl
  winPct := rfl
  points := by
    have hcell : (ofPoints x).sourceCell? (pointsRow x) pointsColumn = some (.spelling x) := rfl
    rw [hcell]
    exact requireField_eq_ok_iff.mpr ⟨_, rfl, Json.numberCell_spelling x⟩
  opponentPoints := rfl
  pointsDifference := rfl
  fullName := rfl
  teamId := rfl

end Table

namespace Normalizer

variable {n : Normalizer} {x : Binary64}

theorem reachesRows_ofPoints (n : Normalizer) (x : Binary64) : n.ReachesRows (.ofPoints x) where
  hasIdentifier := .inr (show teamIdColumn ∈ standingsColumns by decide)
  notMissing hmissing :=
    hmissing.2 (Table.missing_eq_nil_iff.mpr fun _ hcolumn ↦ List.mem_of_mem_tail hcolumn)
  hasPoints := show "PointsPG" ∈ standingsColumns by decide

/-- The row is retained, strict or not, if the range contains its points. -/
theorem normalize_ofPoints (h : n.range.contains x = true) :
    n.normalize (.ofPoints x) = .ok [Table.pointsLine x] := by
  have hretained : n.retained (.ofPoints x) = [Table.pointsRow x] := by
    rw [retained, Table.ofPoints]
    refine List.filter_eq_self.mpr fun row hrow ↦ ?_
    rw [List.mem_singleton.mp hrow, retains]
    exact (congrArg n.accepts (Table.points_pointsRow x)).trans h
  refine normalize_eq_ok_iff.mpr ⟨reachesRows_ofPoints n x, ?_, ?_⟩
  · intro row hrow
    rw [List.mem_singleton.mp hrow]
    exact ⟨some x, Table.points_pointsRow x⟩
  · rw [hretained]
    exact .cons (Table.readsFrom_pointsRow x 0) .nil

/-- The normalizer makes a line of some row of some table. -/
def RetainsSome (n : Normalizer) : Prop := ∃ t lines, n.normalize t = .ok lines ∧ lines ≠ []

/-- **When a range is of use.** Some row fits it exactly if its bounds are in order. -/
theorem retainsSome_iff : n.RetainsSome ↔ n.range.lowest.le n.range.highest = true := by
  constructor
  · rintro ⟨t, lines, h, hne⟩
    obtain ⟨line, hline⟩ := List.exists_mem_of_ne_nil lines hne
    exact PointsRange.le_of_contains (contains_points_of_normalize h hline)
  · intro h
    have hlowest := PointsRange.contains_lowest_iff.mpr h
    exact ⟨_, _, normalize_ofPoints hlowest, List.cons_ne_nil _ _⟩

end Normalizer

end LeagueStandings
