import LeagueStandings.LinkReport
import LeagueStandings.Proofs.Standings.Codec

/-!
# Linking rows from a file

A file keeps less of a row than the row says: nulls and numbers that are not finite are lost. A link
asks a row for its identifier, its city and its name, and takes its numbers over into the report.
None of this tells a null from an absent entry, and the report writes a number that is not finite as
null anyway. So rows that went through a file link to the same report, as JSON (`toJson_link_kept`).
-/

namespace LeagueStandings

/-! ## What an entry has after it was kept -/

theorem Entry.toOption_kept {α : Type} (keeps : α → Bool) (entry : Entry α) :
    (entry.kept keeps).toOption = entry.toOption.filter keeps := by
  rw [← Entry.ofField_filter, Entry.toOption_ofField]

@[simp] theorem Entry.toOption_kept_true {α : Type} (entry : Entry α) :
    (entry.kept fun _ ↦ true).toOption = entry.toOption := by
  cases entry <;> rfl

theorem Json.ofOption_filter_isFinite (x : Option Binary64) :
    Json.ofOption .binary64 (x.filter Binary64.isFinite) = Json.ofOption .binary64 x := by
  cases x with
  | none => rfl
  | some x =>
    cases h : x.isFinite with
    | true => rw [Option.filter_some, if_pos h]
    | false =>
      rw [Option.filter_some, if_neg (Bool.eq_false_iff.mp h)]
      exact (Json.binary64_eq_null_iff.mpr h).symm

/-! ## Rows that were kept -/

theorem StandingsRow.comparableName_kept (row : StandingsRow) :
    row.kept.comparableName = row.comparableName := by
  simp only [comparableName, kept, Entry.toOption_kept_true]

/-- A team is described by the same row. -/
theorem StandingsRow.find?_map_kept (rows : List StandingsRow) (team : TeamRecord) :
    find? (rows.map kept) team = (find? rows team).map kept := by
  have hid : (rows.map kept).find? (·.sourceTeamId == team.id) =
      (rows.find? (·.sourceTeamId == team.id)).map kept := List.find?_map
  have hname : (rows.map kept).find?
        (·.comparableName == LeagueStandings.comparableName team.name) =
      (rows.find? (·.comparableName == LeagueStandings.comparableName team.name)).map kept := by
    rw [List.find?_map]
    simp only [Function.comp_def, comparableName_kept]
  rw [find?, find?, hid, hname]
  cases rows.find? (·.sourceTeamId == team.id) <;> rfl

theorem LinkedTeam.toJson_kept (team : TeamRecord) (row : StandingsRow) :
    (LinkedTeam.of team row.kept).toJson = (LinkedTeam.of team row).toJson := by
  simp only [toJson, of, StandingsRow.kept, Entry.toOption_kept_true,
    Entry.toOption_kept Binary64.isFinite, Json.ofOption_filter_isFinite]

/-! ## Reports -/

theorem length_link (teams : List TeamRecord) (rows : List StandingsRow) :
    (link teams rows).matched.length + (link teams rows).unmatched.length = teams.length := by
  rw [link]
  dsimp only
  rw [List.length_map]
  induction teams with
  | nil => rfl
  | cons team teams ih =>
    cases h : StandingsRow.find? rows team with
    | none => simp [h, ← ih, Nat.add_assoc]
    | some row => simp [h, ← ih, Nat.add_right_comm]

/-- **Linking rows from a file** gives the same report as linking the rows that were written. -/
theorem toJson_link_kept (teams : List TeamRecord) (rows : List StandingsRow) :
    (link teams (rows.map StandingsRow.kept)).toJson = (link teams rows).toJson := by
  have hmatched : (link teams (rows.map StandingsRow.kept)).matched.map LinkedTeam.toJson =
      (link teams rows).matched.map LinkedTeam.toJson := by
    rw [link, link]
    dsimp only
    rw [List.map_filterMap, List.map_filterMap]
    refine List.filterMap_congr fun team _ ↦ ?_
    rw [StandingsRow.find?_map_kept]
    cases StandingsRow.find? rows team with
    | none => rfl
    | some row => exact congrArg some (LinkedTeam.toJson_kept team row)
  have hunmatched : (link teams (rows.map StandingsRow.kept)).unmatched =
      (link teams rows).unmatched := by
    rw [link, link]
    dsimp only
    simp only [StandingsRow.find?_map_kept, Option.isNone_map]
  rw [LinkReport.toJson, LinkReport.toJson, hmatched, hunmatched]

end LeagueStandings
