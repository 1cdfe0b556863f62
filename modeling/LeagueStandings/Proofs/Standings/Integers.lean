import LeagueStandings.Proofs.Standings.Alias
import LeagueStandings.Proofs.Standings.Keys
import LeagueStandings.Proofs.Table.Numbers

/-!
# The integers of standings rows

Three columns of the rows are columns of integers: the identifier, the wins and the losses. What a
line has there should be the numbers that the source cells denote, and so it is, row by row, for the
rows whose cells are within the range (`integers_of_normalize`).

An integer of more than 64 bits is taken for the nearest end of the range. So rows with different
identifiers may become lines with one identifier, which happens exactly to those whose identifiers
lie at or beyond the same end.
-/

namespace LeagueStandings

/-- The columns of the rows that hold integers. -/
def integerColumns : List String := [teamIdColumn, "wins", "losses"]

/-- The integers of the line are the numbers that the cells denote, and where a cell denotes none
the line has none. -/
structure StandingsRow.CarriesNumbers (cells : String → Option Json) (line : StandingsRow) :
    Prop where
  sourceTeamId : (cells teamIdColumn).bind Json.value? = some (line.sourceTeamId.toInt : ℚ)
  teamId : line.teamId = line.sourceTeamId
  wins : (cells "wins").bind Json.value? = line.wins.toOption.map fun i ↦ (i.toInt : ℚ)
  losses : (cells "losses").bind Json.value? = line.losses.toOption.map fun i ↦ (i.toInt : ℚ)

/-! ## Cells and fields -/

/-- What is read of a cell, if anything, is the number that it denotes, unless it overflows. -/
theorem Json.value?_eq_map_iff {cell : Json} {value : Option Int64}
    (h : cell.integerCell = .ok value) :
    (cell.value? = value.map fun i ↦ (i.toInt : ℚ)) ↔ ¬ cell.Overflows := by
  cases value with
  | some i =>
    rw [Option.map_some]
    exact value?_eq_some_iff h
  | none =>
    apply iff_of_true
    · rcases integerCell_eq_none_iff.mp h with rfl | ⟨s, rfl, hblank⟩
      · rfl
      · rw [value?_str, numberOfText?_of_isBlankText hblank, Option.map_none]
    · intro hoverflows
      obtain ⟨n, -, -, hread⟩ := exists_of_overflows hoverflows
      cases h.symm.trans hread

section Field

variable {cell? : Option Json} {column : String} {index : Nat}

theorem bind_value?_of_readField {entry : Entry Int64}
    (h : readField column index Json.integerCell cell? = .ok entry) :
    (cell?.bind Json.value? = entry.toOption.map fun i ↦ (i.toInt : ℚ)) ↔
      ∀ cell, cell? = some cell → ¬ cell.Overflows := by
  rcases readField_eq_ok_iff.mp h with ⟨rfl, rfl⟩ | ⟨cell, value, rfl, hread, rfl⟩
  · simp [Entry.toOption]
  · simpa using Json.value?_eq_map_iff hread

theorem bind_value?_of_requireField {i : Int64}
    (h : requireField column index Json.integerCell cell? = .ok i) :
    cell?.bind Json.value? = some (i.toInt : ℚ) ↔
      ∀ cell, cell? = some cell → ¬ cell.Overflows :=
  bind_value?_of_readField (readField_of_requireField h)

end Field

namespace StandingsRow

variable {cells : String → Option Json} {index : Nat} {line : StandingsRow}

theorem carriesNumbers_iff (h : line.ReadsFrom cells index) :
    line.CarriesNumbers cells ↔
      ∀ column ∈ integerColumns, ∀ cell, cells column = some cell → ¬ cell.Overflows := by
  rw [integerColumns, List.forall_mem_cons, List.forall_mem_cons, List.forall_mem_singleton,
    ← bind_value?_of_requireField h.sourceTeamId, ← bind_value?_of_readField h.wins,
    ← bind_value?_of_readField h.losses]
  constructor
  · intro hcarries
    exact ⟨hcarries.sourceTeamId, hcarries.wins, hcarries.losses⟩
  · rintro ⟨hid, hwins, hlosses⟩
    exact ⟨hid, h.teamId, hwins, hlosses⟩

theorem exists_identifier (h : line.ReadsFrom cells index) :
    ∃ m : Int, (cells teamIdColumn).bind Json.value? = some (m : ℚ) ∧
      line.sourceTeamId = Int64.ofIntClamp m := by
  obtain ⟨cell, hcell, hread⟩ := requireField_eq_ok_iff.mp h.sourceTeamId
  obtain ⟨m, hm, hid⟩ := Json.exists_of_integerCell hread
  exact ⟨m, by rw [hcell]; exact hm, hid⟩

end StandingsRow

/-! ## Whole tables -/

/-- Both numbers lie at or beyond the same end of the integers of 64 bits. -/
def Integer64.AtOneEnd (p q : ℚ) : Prop :=
  (0x7FFFFFFFFFFFFFFF ≤ p ∧ 0x7FFFFFFFFFFFFFFF ≤ q) ∨
    (p ≤ -0x8000000000000000 ∧ q ≤ -0x8000000000000000)

theorem Integer64.ofIntClamp_eq_iff_atOneEnd {m k : Int} (h : (m : ℚ) ≠ k) :
    Int64.ofIntClamp m = Int64.ofIntClamp k ↔ AtOneEnd m k := by
  have hne : m ≠ k := Int.cast_injective.ne_iff.mp h
  rw [ofIntClamp_eq_iff, or_iff_right hne, AtOneEnd]
  norm_cast

namespace Normalizer

variable {n : Normalizer} {t : Table} {lines : List StandingsRow}

/-- **Which integers are kept.** A cell is read exactly or refused unless it is an integer of more
than 64 bits; a line carries the numbers of its row exactly if none of its integer cells is one; and
of two rows that are identified by different numbers the lines are identified by different integers
unless both numbers lie at or beyond one end of the range. -/
theorem integers_of_normalize (n : Normalizer) :
    (∀ cell : Json, cell.ReadsExactly ↔ ¬ cell.Overflows) ∧
    ∀ t lines, n.normalize t = .ok lines →
      List.Forall₂ (fun row line ↦ line.CarriesNumbers (t.sourceCell? row) ↔
        ∀ column ∈ integerColumns, ∀ cell, t.sourceCell? row column = some cell →
          ¬ cell.Overflows) (n.retained t) lines ∧
      ∀ first ∈ (n.retained t).zip lines, ∀ second ∈ (n.retained t).zip lines, ∀ p q : ℚ,
        (t.sourceCell? first.1 teamIdColumn).bind Json.value? = some p →
        (t.sourceCell? second.1 teamIdColumn).bind Json.value? = some q → p ≠ q →
        (first.2.sourceTeamId = second.2.sourceTeamId ↔ Integer64.AtOneEnd p q) := by
  refine ⟨fun cell ↦ Json.readsExactly_iff, fun t lines h ↦ ⟨?_, ?_⟩⟩
  · exact (forall₂_readsFrom h).imp fun row line ⟨index, hreads⟩ ↦
      StandingsRow.carriesNumbers_iff hreads
  · intro first hfirst second hsecond p q hp hq hne
    obtain ⟨-, hreads⟩ := List.forall₂_iff_zip.mp (forall₂_readsFrom h)
    obtain ⟨_, hreads₁⟩ := hreads hfirst
    obtain ⟨_, hreads₂⟩ := hreads hsecond
    obtain ⟨m, hm, hid₁⟩ := StandingsRow.exists_identifier hreads₁
    obtain ⟨k, hk, hid₂⟩ := StandingsRow.exists_identifier hreads₂
    obtain rfl : (m : ℚ) = p := Option.some.inj (hm.symm.trans hp)
    obtain rfl : (k : ℚ) = q := Option.some.inj (hk.symm.trans hq)
    rw [hid₁, hid₂]
    exact Integer64.ofIntClamp_eq_iff_atOneEnd hne

/-- A table whose row is identified by an integer that no float can hold. -/
def largeIdentifier : Table :=
  ⟨"Standings", ["TeamID", "PointsPG"], [[.int64 9007199254740993, .int64 100]]⟩

/-- Its line has that integer. -/
theorem integers_of_normalize_largeIdentifier : ∃ lines,
    ({} : Normalizer).normalize largeIdentifier = .ok lines ∧
    lines.map (·.sourceTeamId) = [9007199254740993] ∧
    List.Forall₂ (fun row line ↦ line.CarriesNumbers (largeIdentifier.sourceCell? row))
      (({} : Normalizer).retained largeIdentifier) lines := by
  have hids : (({} : Normalizer).normalize largeIdentifier).toOption.map
      (·.map (·.sourceTeamId)) = some [9007199254740993] := by decide +kernel
  have hok : (({} : Normalizer).normalize largeIdentifier).isOk = true := by decide +kernel
  obtain ⟨lines, hlines⟩ := exists_of_isOk hok
  rw [hlines] at hids
  obtain ⟨hlength, hcarries⟩ := List.forall₂_iff_zip.mp
    ((integers_of_normalize {}).2 largeIdentifier lines hlines).1
  refine ⟨lines, hlines, Option.some.inj hids, List.forall₂_iff_zip.mpr ⟨hlength, ?_⟩⟩
  intro row line hmem
  obtain rfl : row = [.int64 9007199254740993, .int64 100] :=
    List.mem_singleton.mp (List.mem_of_mem_filter (List.of_mem_zip hmem).1)
  refine (hcarries hmem).mpr fun column hcolumn cell hcell ↦ ?_
  have hcells : ∀ column ∈ integerColumns,
      largeIdentifier.sourceCell? [.int64 9007199254740993, .int64 100] column = none ∨
      largeIdentifier.sourceCell? [.int64 9007199254740993, .int64 100] column =
        some (.int64 9007199254740993) := by
    rw [integerColumns, List.forall_mem_cons, List.forall_mem_cons, List.forall_mem_singleton]
    exact ⟨.inr rfl, .inl rfl, .inl rfl⟩
  rcases hcells column hcolumn with hnone | hsome
  · cases hnone.symm.trans hcell
  · cases hsome.symm.trans hcell
    exact (Json.value?_eq_some_iff rfl).mp rfl

/-- The integer just above the range, as a cell. -/
def firstBeyond : Json := .num (.integer 0x8000000000000000 (by decide))

/-- The integer after that. -/
def secondBeyond : Json := .num (.integer 0x8000000000000001 (by decide))

/-- A table whose rows are identified by these two. -/
def beyondRange : Table :=
  ⟨"Standings", ["TeamID", "PointsPG"],
    [[firstBeyond, .int64 100], [secondBeyond, .int64 100]]⟩

/-- **Two teams become one.** The identifiers of that table denote different numbers, neither of
which is read exactly, and both lines are identified by the greatest integer of 64 bits. -/
theorem not_integers_beyondRange :
    firstBeyond.value? ≠ secondBeyond.value? ∧
      ¬ firstBeyond.ReadsExactly ∧ ¬ secondBeyond.ReadsExactly ∧
      (({} : Normalizer).normalize beyondRange).toOption.map (·.map (·.sourceTeamId)) =
        some [Int64.maxValue, Int64.maxValue] := by
  have hoverflows : ∀ (m : Int) (hm : FitsWord m), 0x7FFFFFFFFFFFFFFF < m →
      ¬ (Json.num (.integer m hm)).ReadsExactly := by
    intro m hm hlarge hexact
    exact Json.readsExactly_iff.mp hexact ⟨_, m, rfl, rfl, fun hholds ↦ by omega⟩
  refine ⟨?_, hoverflows _ _ (by decide), hoverflows _ _ (by decide), by decide +kernel⟩
  simp [firstBeyond, secondBeyond, Json.value?, JsonNumber.value]

end Normalizer

end LeagueStandings
