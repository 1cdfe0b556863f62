import LeagueStandings.Proofs.Standings.Range

/-!
# Narrowing the range of points

Two normalizers that differ in their ranges only are compared on one table. Where the one range lies
within the other, the narrower run makes some of the lines of the wider one, and the same ones as a
filter on their points would keep (`normalize_narrowed`).

## What the range decides

The range is asked about the points of a row before anything else of the row is read, so a row that
it drops cannot fail, and a row that it keeps is read as before. Only its number changes, since rows
are counted among the retained ones; but a number is seen in failures only (`ReadsFrom.renumber`).

Failures that precede the lines are over the headers, or over points that cannot be read in a row
that the range may or may not have kept. For these the range is never asked
(`normalize_eq_error_iff_of_precedesLines`, `Fails.congr_range`).
-/

namespace LeagueStandings

/-- Every number of the one range is a number of the other. -/
def PointsRange.Within (inner outer : PointsRange) : Prop :=
  ∀ x, inner.contains x = true → outer.contains x = true

theorem PointsRange.within_of_le {inner outer : PointsRange}
    (hlowest : outer.lowest.le inner.lowest = true)
    (hhighest : inner.highest.le outer.highest = true) : inner.Within outer := by
  intro x hx
  rw [contains_iff] at hx ⊢
  exact ⟨Binary64.le_trans hlowest hx.1, Binary64.le_trans hx.2 hhighest⟩

/-- The failures that are met before any line is read: those over the headers of a table, and those
over points that cannot be read. -/
inductive Failure.PrecedesLines : Failure → Prop
  | unidentified (table : String) (headers : List String) :
      PrecedesLines (.unidentified table headers)
  | missingColumns (columns : List String) : PrecedesLines (.missingColumns columns)
  | points (row : Nat) (cause : CellFault) : PrecedesLines (.invalidCell pointsColumn row cause)

namespace Normalizer

variable {n : Normalizer} {t : Table} {strict : Bool} {inner outer range : PointsRange}

/-! ## Rows -/

theorem accepts_of_within (h : inner.Within outer) {points : Except CellRefusal (Option Binary64)}
    (hpoints : accepts ⟨strict, inner⟩ points = true) : accepts ⟨strict, outer⟩ points = true := by
  cases points with
  | error refusal => cases hpoints
  | ok points =>
    cases points with
    | none => cases hpoints
    | some x => exact h x hpoints

theorem retained_of_within (h : inner.Within outer) (t : Table) :
    retained ⟨strict, inner⟩ t = (retained ⟨strict, outer⟩ t).filter (retains ⟨strict, inner⟩ t) := by
  rw [retained, retained, List.filter_filter]
  refine List.filter_congr fun row _ ↦ ?_
  cases hrow : retains ⟨strict, inner⟩ t row with
  | false => rfl
  | true => exact (accepts_of_within h hrow).symm

theorem ReachesRows.congr_range (h : ReachesRows ⟨strict, outer⟩ t) (range : PointsRange) :
    ReachesRows ⟨strict, range⟩ t :=
  ⟨h.hasIdentifier, h.notMissing, h.hasPoints⟩

/-- A narrower range gives the lines of the wider one whose points it contains. -/
theorem normalize_of_within (h : inner.Within outer) {lines : List StandingsRow}
    (houter : normalize ⟨strict, outer⟩ t = .ok lines) :
    normalize ⟨strict, inner⟩ t = .ok (lines.filter fun line ↦ inner.contains line.points) := by
  obtain ⟨hreaches, hpoints, -⟩ := normalize_eq_ok_iff.mp houter
  -- The row is retained exactly if the line made from it is kept.
  have hkept : List.Forall₂ (fun row line ↦ ∃ index, line.ReadsFrom (t.sourceCell? row) index)
      (retained ⟨strict, inner⟩ t) (lines.filter fun line ↦ inner.contains line.points) := by
    rw [retained_of_within h]
    refine List.rel_filter (fun row line ⟨index, hreads⟩ ↦ ?_) (forall₂_readsFrom houter)
    exact Bool.eq_iff_iff.mp (retains_eq_of_readsFrom ⟨strict, inner⟩ hreads)
  refine normalize_eq_ok_iff.mpr ⟨hreaches.congr_range inner, hpoints, ?_⟩
  rw [← List.zipIdx_map_fst 0 (retained ⟨strict, inner⟩ t), List.forall₂_map_left_iff] at hkept
  exact hkept.imp fun row line ⟨index, hreads⟩ ↦ hreads.renumber row.2

/-! ## Failures -/

/-- Before the lines, a run fails exactly where it has to. -/
theorem normalize_eq_error_iff_of_precedesLines {failure : Failure} (h : failure.PrecedesLines) :
    n.normalize t = .error failure ↔ n.Fails t failure := by
  refine ⟨fails_of_normalize_eq_error, fun hfails ↦ ?_⟩
  rw [normalize_eq]
  cases hfails with
  | unidentified hid => rw [rowByRow, if_pos hid]
  | missing hid hmissing => rw [rowByRow, if_neg (not_not_intro hid), if_pos hmissing]
  | pointless hid hmissing hpoints =>
    rw [rowByRow, if_neg (not_not_intro hid), if_neg hmissing, if_pos hpoints]
  | @points index row refusal hreaches hrow hrefusal hbefore =>
    rw [rowByRow_of_reachesRows hreaches]
    refine bind_eq_error_iff.mpr (.inl ?_)
    refine (mapM_zipIdx_eq_error_iff (f := fun row ↦ checkPoints (t.points row))).mpr
      ⟨index, row, hrow, checkPoints_eq_error_iff.mpr ⟨refusal, hrefusal, rfl⟩, ?_⟩
    exact fun i hi other ho ↦ exists_checkPoints_eq_ok_iff.mpr (hbefore i hi other ho)
  | cell _ _ _ hne =>
    cases h
    exact absurd rfl hne

theorem Fails.congr_range {failure : Failure} (h : failure.PrecedesLines)
    (hfails : Fails ⟨strict, outer⟩ t failure) (range : PointsRange) :
    Fails ⟨strict, range⟩ t failure := by
  cases hfails with
  | unidentified hid => exact .unidentified hid
  | missing hid hmissing => exact .missing hid hmissing
  | pointless hid hmissing hpoints => exact .pointless hid hmissing hpoints
  | points hreaches hrow hrefusal hbefore =>
    exact .points (hreaches.congr_range range) hrow hrefusal hbefore
  | cell _ _ _ hne =>
    cases h
    exact absurd rfl hne

/-- **Narrowing only filters.** If a normalizer makes lines of a table, then with a range within its
own it makes those of them whose points are in that range, in the same order. And a failure that
precedes the lines is met with every range. -/
theorem normalize_narrowed (strict : Bool) (t : Table) :
    (∀ inner outer lines, PointsRange.Within inner outer →
      normalize ⟨strict, outer⟩ t = .ok lines →
      normalize ⟨strict, inner⟩ t = .ok (lines.filter fun line ↦ inner.contains line.points)) ∧
    ∀ failure, failure.PrecedesLines → ∀ range other,
      normalize ⟨strict, range⟩ t = .error failure →
      normalize ⟨strict, other⟩ t = .error failure := by
  constructor
  · intro inner outer lines hwithin houter
    exact normalize_of_within hwithin houter
  · intro failure hprecedes range other hrange
    rw [normalize_eq_error_iff_of_precedesLines hprecedes] at hrange ⊢
    exact hrange.congr_range hprecedes other

/-- A table with a team of few points, one of many, and one whose points are infinite. -/
def fewManyInfinite : Table :=
  ⟨"Standings", ["TeamID", "PointsPG"],
    [[.int64 1, .int64 90], [.int64 2, .int64 120], [.int64 3, .str "inf"]]⟩

/-- A range without ends makes three lines of that table, and the range from a hundred on the last
two of these. On a table without columns both fail. -/
theorem normalize_narrowed_fewManyInfinite :
    (∃ lines, normalize ⟨false, .infinite true, .infinite false⟩ fewManyInfinite = .ok lines ∧
      normalize ⟨false, .ofInt 100, .infinite false⟩ fewManyInfinite =
        .ok (lines.filter fun line ↦ PointsRange.contains ⟨.ofInt 100, .infinite false⟩ line.points) ∧
      (lines.filter fun line ↦
        PointsRange.contains ⟨.ofInt 100, .infinite false⟩ line.points).map (·.sourceTeamId) =
        [2, 3]) ∧
    normalize ⟨false, .ofInt 100, .infinite false⟩ ⟨"Standings", [], []⟩ =
      .error (.unidentified "Standings" []) := by
  have hok : (normalize ⟨false, .infinite true, .infinite false⟩ fewManyInfinite).isOk = true := by
    decide +kernel
  obtain ⟨lines, hlines⟩ := exists_of_isOk hok
  have hnarrow := (normalize_narrowed false fewManyInfinite).1 ⟨.ofInt 100, .infinite false⟩ _ lines
    (PointsRange.within_of_le (by decide +kernel) (by decide +kernel)) hlines
  have hids : (normalize ⟨false, .ofInt 100, .infinite false⟩ fewManyInfinite).toOption.map
      (·.map (·.sourceTeamId)) = some [2, 3] := by decide +kernel
  rw [hnarrow] at hids
  refine ⟨⟨lines, hlines, hnarrow, Option.some.inj hids⟩, ?_⟩
  exact (normalize_narrowed false ⟨"Standings", [], []⟩).2 _ (.unidentified _ _) .usual _ rfl

end Normalizer

end LeagueStandings
