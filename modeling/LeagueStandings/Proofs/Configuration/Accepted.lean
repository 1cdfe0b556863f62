import LeagueStandings.Proofs.Configuration.Loading
import LeagueStandings.Proofs.Run.Sequence
import LeagueStandings.Proofs.Standings.Range

/-!
# Configurations that are accepted

A configuration is checked when it is loaded, so that no run starts with settings that cannot work.
The time to wait is positive afterwards. The range of points is another matter. It is refused if its
upper bound is below its lower one, and that is the right question for numbers only: a bound may
also be NaN, which is below nothing, and then the check passes and no row fits the range
(`hasUsableRange_iff_of_load`).
-/

namespace LeagueStandings

/-- The range of points can be used: its bounds are in order, it contains the lower one, and some
row of some table fits it. -/
structure StandingsSettings.HasUsableRange (s : StandingsSettings) : Prop where
  ordered : s.lowestPoints.le s.highestPoints = true
  containsLowest : s.normalizer.range.contains s.lowestPoints = true
  retainsSome : s.normalizer.RetainsSome

/-- All that is needed is that the bounds are in order. -/
theorem StandingsSettings.hasUsableRange_iff {s : StandingsSettings} :
    s.HasUsableRange ↔ s.lowestPoints.le s.highestPoints = true :=
  ⟨fun h ↦ h.ordered, fun h ↦
    ⟨h, PointsRange.contains_lowest_iff.mpr h, Normalizer.retainsSome_iff.mpr h⟩⟩

namespace Configuration

/-- **What is known of an accepted configuration.** Its time to wait is positive. Its range of
points can be used exactly if neither bound is NaN; otherwise every table that can be normalized at
all is normalized to no rows. -/
theorem hasUsableRange_iff_of_load {files : FileTree} {path : Option String} {c : Configuration}
    (h : load files path = .ok c) :
    (c.standings.HasUsableRange ↔
      c.standings.lowestPoints ≠ .nan ∧ c.standings.highestPoints ≠ .nan) ∧
    (¬ c.standings.HasUsableRange →
      ∀ t lines, c.standings.normalizer.normalize t = .ok lines → lines = []) ∧
    0 < c.source.timeoutSeconds := by
  obtain ⟨-, hrange, htimeout⟩ := validate_eq_ok_iff.mp (validate_of_load h)
  refine ⟨?_, ?_, htimeout⟩
  · rw [StandingsSettings.hasUsableRange_iff]
    constructor
    · exact Binary64.ne_nan_of_le
    · rintro ⟨hlowest, hhighest⟩
      exact (Binary64.le_iff_lt_eq_false hlowest hhighest).mpr hrange
  · intro hunusable t lines hlines
    by_contra hne
    have hretains : c.standings.normalizer.RetainsSome := ⟨t, lines, hlines, hne⟩
    exact hunusable
      (StandingsSettings.hasUsableRange_iff.mpr (Normalizer.retainsSome_iff.mp hretains))

/-- The lower bound is minus infinity and the upper one an integer. -/
def wideText : String :=
  "[standings]\nmin_points_per_game = -inf\nmax_points_per_game = 90\n"

/-- What that text configures. -/
def wide : Configuration :=
  { standings := { lowestPoints := .infinite true, highestPoints := .ofInt 90 } }

/-- The lower bound is no number. -/
def nanText : String := "[standings]\nmin_points_per_game = nan\n"

/-- What that text configures. -/
def withNan : Configuration := { standings := { lowestPoints := .nan } }

private theorem load_wideText : load (Run.configured wideText) none = .ok wide :=
  (load_defaultFile rfl rfl (by decide +kernel)).trans
    (validate_eq_ok_iff.mpr ⟨rfl, by decide +kernel, Nat.succ_pos 29⟩)

/-- A range without a lower bound can be used. -/
theorem hasUsableRange_wideText :
    load (Run.configured wideText) none = .ok wide ∧ wide.standings.HasUsableRange :=
  ⟨load_wideText, (hasUsableRange_iff_of_load load_wideText).1.mpr (by decide +kernel)⟩

/-- **An accepted configuration without a usable range.** A lower bound that is NaN is accepted. It
is not at most the upper bound, the range does not contain it, and no row of any table fits. -/
theorem not_hasUsableRange_nanText :
    load (Run.configured nanText) none = .ok withNan ∧
      withNan.standings.lowestPoints.le withNan.standings.highestPoints = false ∧
      withNan.standings.normalizer.range.contains withNan.standings.lowestPoints = false ∧
      ¬ withNan.standings.normalizer.RetainsSome := by
  refine ⟨?_, rfl, rfl, ?_⟩
  · exact (load_defaultFile rfl rfl (by decide +kernel)).trans
      (validate_eq_ok_iff.mpr ⟨rfl, Binary64.lt_nan _, Nat.succ_pos 29⟩)
  · intro hretains
    exact Bool.false_ne_true (Normalizer.retainsSome_iff.mp hretains)

end Configuration

end LeagueStandings
