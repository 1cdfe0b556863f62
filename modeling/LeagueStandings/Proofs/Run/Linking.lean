import LeagueStandings.Proofs.FileTree.Writing
import LeagueStandings.Proofs.Link
import LeagueStandings.Proofs.Run.Effect

/-!
# Linking what was saved

A link reads two files that earlier runs have written. If the paths lead to different files, both
are still there, and it does not matter which one was written first (`Saved`). What the files hold
is not quite what was written: nulls and numbers that are not finite have been lost from the
standings, and the other numbers are what is read from their digits. The report does not show the
losses, but it shows the numbers (`toJson_linkFiles_of_saved`).
-/

namespace LeagueStandings.Run

variable {output : OutputSettings} {teams : List TeamRecord} {rows : List StandingsRow}
  {files between after : FileTree} {world written : World}

/-! ## Files that were saved -/

/-- The team list and the standings are in their files. -/
structure Saved (output : OutputSettings) (teams : List TeamRecord) (rows : List StandingsRow)
    (files : FileTree) : Prop where
  teams : files.read output.teamsPath = .ok (TeamRecord.fileBytes teams)
  standings : files.read output.standingsPath = .ok (StandingsRow.fileBytes rows)

/-- The two paths lead to different files. -/
def SeparateFiles (output : OutputSettings) (files : FileTree) : Prop :=
  files.destination output.teamsPath ≠ files.destination output.standingsPath

instance (output : OutputSettings) (files : FileTree) : Decidable (SeparateFiles output files) :=
  inferInstanceAs (Decidable (_ ≠ _))

theorem saved_of_teams_first (h : SeparateFiles output files)
    (hteams : files.writeInPlace output.teamsPath (TeamRecord.fileBytes teams) =
      (between, .ok ()))
    (hrows : between.writeInPlace output.standingsPath (StandingsRow.fileBytes rows) =
      (after, .ok ())) : Saved output teams rows after := by
  obtain ⟨hfirst, hsecond⟩ := FileTree.read_of_writeInPlace_of_ne h hteams hrows
  exact ⟨hfirst, hsecond⟩

theorem saved_of_standings_first (h : SeparateFiles output files)
    (hrows : files.writeInPlace output.standingsPath (StandingsRow.fileBytes rows) =
      (between, .ok ()))
    (hteams : between.writeInPlace output.teamsPath (TeamRecord.fileBytes teams) =
      (after, .ok ())) : Saved output teams rows after := by
  obtain ⟨hfirst, hsecond⟩ := FileTree.read_of_writeInPlace_of_ne h.symm hrows hteams
  exact ⟨hsecond, hfirst⟩

theorem saved_of_exec (hseparate : SeparateFiles output world.files)
    (hsaved : (do saveTeams output teams; saveStandings output rows : Run Unit).exec world =
        (.ok (), written) ∨
      (do saveStandings output rows; saveTeams output teams : Run Unit).exec world =
        (.ok (), written)) : Saved output teams rows written.files := by
  rcases hsaved with h | h
  · obtain ⟨_, between, hteams, hrows⟩ := exec_bind_eq_ok_iff.mp h
    exact saved_of_teams_first hseparate (writeInPlace_of_save hteams) (writeInPlace_of_save hrows)
  · obtain ⟨_, between, hrows, hteams⟩ := exec_bind_eq_ok_iff.mp h
    exact saved_of_standings_first hseparate (writeInPlace_of_save hrows)
      (writeInPlace_of_save hteams)

/-! ## Reading and linking them -/

theorem readFile_teams (h : Saved output teams rows files) :
    readFile TeamRecord.listDecoder? output.teamsPath files = .ok teams := by
  rw [readFile_of_read h.teams, TeamRecord.decode?_fileBytes, Option.elim_some]

theorem readFile_standings (h : Saved output teams rows files)
    (hfinite : ∀ row ∈ rows, row.points.isFinite = true) :
    readFile StandingsRow.listDecoder? output.standingsPath files =
      .ok ((rows.map StandingsRow.reread).map StandingsRow.kept) := by
  rw [readFile_of_read h.standings, StandingsRow.decode?_fileBytes, if_pos hfinite,
    Option.elim_some]

theorem linked_of_saved (h : Saved output teams rows files)
    (hfinite : ∀ row ∈ rows, row.points.isFinite = true) :
    linked output files =
      .ok (link teams ((rows.map StandingsRow.reread).map StandingsRow.kept)) := by
  rw [linked, readFile_teams h, readFile_standings h hfinite]
  rfl

theorem linked_of_not_isFinite (h : Saved output teams rows files)
    (hinfinite : ¬ ∀ row ∈ rows, row.points.isFinite = true) :
    linked output files = .error .malformedJson := by
  rw [linked, readFile_teams h, readFile_of_read h.standings, StandingsRow.decode?_fileBytes,
    if_neg hinfinite]
  rfl

/-- Standings in place of a team list link to nothing, and only if they are empty. -/
theorem linked_of_overwritten
    (hteams : files.read output.teamsPath = .ok (StandingsRow.fileBytes rows))
    (hrows : files.read output.standingsPath = .ok (StandingsRow.fileBytes rows)) :
    linked output files = if rows = [] then .ok ⟨[], []⟩ else .error .malformedJson := by
  rw [linked, readFile_of_read hteams, readFile_of_read hrows, TeamRecord.decode?_standings]
  cases rows with
  | nil =>
    rw [if_pos rfl, if_pos rfl, StandingsRow.decode?_fileBytes, if_pos (by simp)]
    rfl
  | cons row rows => rw [if_neg (List.cons_ne_nil _ _), if_neg (List.cons_ne_nil _ _)]; rfl

/-- **Linking through files** agrees with linking in memory up to the numbers. After a team list and
standings with finite points have been saved, in whichever order, to paths that lead to different
files, the link of the files succeeds, and its report is the same JSON as that of the lists with the
numbers that are read from the digits of the rows. So it is that of the lists themselves, if these
numbers read back. -/
theorem toJson_linkFiles_of_saved (hseparate : SeparateFiles output world.files)
    (hfinite : ∀ row ∈ rows, row.points.isFinite = true)
    (hsaved : (do saveTeams output teams; saveStandings output rows : Run Unit).exec world =
        (.ok (), written) ∨
      (do saveStandings output rows; saveTeams output teams : Run Unit).exec world =
        (.ok (), written)) :
    ∃ report after, (linkFiles output).exec written = (.ok report, after) ∧
      after.files = written.files ∧
      report.toJson = (link teams (rows.map StandingsRow.reread)).toJson ∧
      (rows.map StandingsRow.reread = rows → report.toJson = (link teams rows).toJson) := by
  have hfiles := saved_of_exec hseparate hsaved
  obtain ⟨after, hexec, hafter⟩ :=
    (reads_linkFiles output).exec (linked_of_saved hfiles hfinite)
  have hreport := toJson_link_kept teams (rows.map StandingsRow.reread)
  refine ⟨_, after, hexec, hafter, hreport, fun hreread ↦ ?_⟩
  rw [hreport, hreread]

/-- The Hawks as a record. -/
def hawks : TeamRecord := ⟨1, "ATL", "Atlanta", "Atlanta Hawks"⟩

/-- A row with nulls and numbers that are not finite, saved before the team list. -/
theorem toJson_linkFiles_of_saved_mixedRow :
    StandingsRow.mixedRow.kept ≠ StandingsRow.mixedRow ∧ ∃ written report after,
      (do saveStandings {} [.mixedRow]; saveTeams {} [hawks] : Run Unit).exec
        { files := .workingIn [] } = (.ok (), written) ∧
      (linkFiles {}).exec written = (.ok report, after) ∧
      report.toJson = (link [hawks] [.mixedRow]).toJson := by
  have hsaved : ∃ written, (do saveStandings {} [.mixedRow]; saveTeams {} [hawks] : Run Unit).exec
      { files := .workingIn [] } = (.ok (), written) := ⟨_, rfl⟩
  obtain ⟨written, hsaved⟩ := hsaved
  obtain ⟨report, after, hexec, -, -, hreport⟩ :=
    toJson_linkFiles_of_saved (by decide) (by decide +kernel) (.inr hsaved)
  exact ⟨by decide +kernel, written, report, after, hsaved, hexec, hreport (by decide +kernel)⟩

/-- A row of the Hawks with nothing but their points. -/
def hawksRow (points : Binary64) : StandingsRow where
  sourceTeamId := 1
  city := .absent
  name := .absent
  conference := .absent
  division := .absent
  wins := .absent
  losses := .absent
  winPct := .absent
  points
  opponentPoints := .absent
  pointsDifference := .absent
  fullName := .absent
  teamId := 1

/-- **A report that shows the file.** The Hawks have made 271 points in three games. The digits that
are written are those of that number, but another number is read from them and reported. -/
theorem not_toJson_linkFiles_of_saved :
    SeparateFiles {} (.workingIn []) ∧
      (∀ row ∈ [hawksRow (.ofRatio false 271 3)], row.points.isFinite = true) ∧
      ∃ written report after,
        (do saveTeams {} [hawks]
            saveStandings {} [hawksRow (.ofRatio false 271 3)] : Run Unit).exec
          { files := .workingIn [] } = (.ok (), written) ∧
        (linkFiles {}).exec written = (.ok report, after) ∧
        report.toJson ≠ (link [hawks] [hawksRow (.ofRatio false 271 3)]).toJson := by
  have hseparate : SeparateFiles {} (.workingIn []) := by decide
  have hfinite : ∀ row ∈ [hawksRow (.ofRatio false 271 3)], row.points.isFinite = true := by
    decide +kernel
  have hsaved : ∃ written, (do saveTeams {} [hawks]
                               saveStandings {} [hawksRow (.ofRatio false 271 3)] : Run Unit).exec
      { files := .workingIn [] } = (.ok (), written) := ⟨_, rfl⟩
  obtain ⟨written, hsaved⟩ := hsaved
  have hfiles : Saved {} [hawks] [hawksRow (.ofRatio false 271 3)] written.files := by
    refine saved_of_exec ?_ (.inl hsaved)
    exact hseparate
  obtain ⟨after, hexec, -⟩ := (reads_linkFiles {}).exec (linked_of_saved hfiles hfinite)
  refine ⟨hseparate, hfinite, written, _, after, hsaved, hexec, ?_⟩
  rw [toJson_link_kept]
  -- The two texts differ in the last digit of the points.
  refine fun heq ↦ absurd (congrArg Json.compactChars heq) ?_
  decide +kernel

end LeagueStandings.Run
