import LeagueStandings.Proofs.Run.Effect

/-!
# Reading an import back

An import that succeeds leaves its records in the team list. Whatever texts and numbers the source
has, with quotes, backslashes and control characters among them, the list is read again as exactly
these records (`readJson_of_importTeams`). Three facts are put together here: an import succeeds
only with the records of all the teams, what it has written is in its file, and the text of a team
list is decoded as its records.
-/

namespace LeagueStandings

/-- The record keeps what the team list is to show of the team. -/
structure TeamRecord.Keeps (record : TeamRecord) (team : Team) : Prop where
  id : record.id = team.id
  abbreviation : record.abbreviation = team.abbreviation
  city : record.city = team.city
  name : record.name = team.fullName

theorem Team.keeps_record (team : Team) : team.record.Keeps team := ⟨rfl, rfl, rfl, rfl⟩

/-- The source that lists the given teams and no tables, with the answers that it gives. -/
def SteadySource.ofTeams (teams : List Team) : SteadySource where
  source := .ofTeams teams
  teams := .ok teams
  tables _ := .ok []
  reads_teams := Run.reads_pure teams
  reads_tables _ := Run.reads_pure []

namespace Run

variable {s : SteadySource} {output : OutputSettings} {teams : List Team}
  {records : List TeamRecord} {world after : World}

theorem eq_map_record_of_importTeams (hteams : s.teams = .ok teams)
    (h : (importTeams s.source output).exec world = (.ok records, after)) :
    records = teams.map Team.record := by
  obtain ⟨hrecords, -⟩ := effect_importTeams_eq_ok_iff.mp (effect_eq_iff.mpr ⟨after, h, rfl⟩)
  rw [SteadySource.records, hteams] at hrecords
  exact (Except.ok.inj hrecords).symm

theorem read_of_importTeams (h : (importTeams s.source output).exec world = (.ok records, after)) :
    after.files.read output.teamsPath = .ok (TeamRecord.fileBytes records) := by
  obtain ⟨-, hwrite⟩ := effect_importTeams_eq_ok_iff.mp (effect_eq_iff.mpr ⟨after, h, rfl⟩)
  exact FileTree.read_of_writeInPlace hwrite

/-- **An import reads back.** If it succeeds, its records are those of the teams of the source, one
for each and in order, and reading the team list afterwards gives exactly these records. -/
theorem readJson_of_importTeams (hteams : s.teams = .ok teams)
    (h : (importTeams s.source output).exec world = (.ok records, after)) :
    List.Forall₂ TeamRecord.Keeps records teams ∧
      (readJson TeamRecord.listDecoder? output.teamsPath).exec after = (.ok records, after) := by
  constructor
  · rw [eq_map_record_of_importTeams hteams h]
    refine List.forall₂_map_left_iff.mpr (List.forall₂_same.mpr ?_)
    exact fun team _ ↦ team.keeps_record
  · rw [exec_readJson _ (read_of_importTeams h), TeamRecord.decode?_fileBytes, Option.elim_some]

/-- A team with quotes, backslashes and control characters in its texts. -/
def escapedTeam : Team where
  id := -9223372036854775808
  fullName := "\"Hawks\" \\ \u2028"
  abbreviation := "\x00\x1f\x7f"
  nickname := ""
  city := "\n\t"
  state := "Georgia"
  yearFounded := -1

/-- The team twice. -/
theorem readJson_of_importTeams_escaped : ∃ records after,
    (importTeams (.ofTeams [escapedTeam, escapedTeam]) {}).exec { files := .workingIn [] } =
      (.ok records, after) ∧
    List.Forall₂ TeamRecord.Keeps records [escapedTeam, escapedTeam] ∧
    (readJson TeamRecord.listDecoder? ({} : OutputSettings).teamsPath).exec after =
      (.ok records, after) := by
  have hwrites : ∀ bytes, ∃ files, (FileTree.workingIn []).writeInPlace
      ({} : OutputSettings).teamsPath bytes = (files, .ok ()) := fun _ ↦ ⟨_, rfl⟩
  obtain ⟨files, hwrite⟩ := hwrites (TeamRecord.fileBytes [escapedTeam.record, escapedTeam.record])
  have heffect : (importTeams (.ofTeams [escapedTeam, escapedTeam]) {}).effect
      { files := .workingIn [] } = (.ok [escapedTeam.record, escapedTeam.record], files) :=
    effect_importTeams_eq_ok_iff (s := .ofTeams [escapedTeam, escapedTeam]).mpr ⟨rfl, hwrite⟩
  obtain ⟨after, h, -⟩ := effect_eq_iff.mp heffect
  exact ⟨_, after, h, readJson_of_importTeams (s := .ofTeams [escapedTeam, escapedTeam]) rfl h⟩

end Run

end LeagueStandings
