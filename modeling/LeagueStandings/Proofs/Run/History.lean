import LeagueStandings.Proofs.FileTree.Repeating
import LeagueStandings.Proofs.Run.Sequence

/-!
# Histories of runs

Imports, standings runs and links in any order and number, each with a source and a normalizer of
its own, on one directory. A run that fails does not keep the next one from starting. Afterwards
each file has what the last successful run has put there, or what it had in the beginning
(`lastWriterWins`).

## The step and the history

`Leaves` has the four ways in which one run can end, with the files that it leaves then: it has
written its file, it was a link, it has failed before it wrote, or it has failed to write. No run
ends in another way (`Step.leaves`). Everything about histories comes from this by induction on the
list of runs, where only one fact has to be carried along: the working directory stays the same, so
that a path leads to the same place in the end as in the beginning.
-/

namespace LeagueStandings.Run

/-- One of the three runs, with all that it depends on besides the files and the places for
them. -/
inductive Step
  | teams (source : SteadySource)
  | standings (source : SteadySource) (normalizer : Normalizer) (season : Season)
  | link

/-- What a run gives when it succeeds. -/
inductive Outcome
  | teams (records : List TeamRecord)
  | standings (rows : List StandingsRow)
  | link (report : LinkReport)

/-- The file that a run with this outcome has written: its path, and the text of what the run has
given. -/
def Outcome.saved? (output : OutputSettings) : Outcome → Option (String × List UInt8)
  | teams records => some (output.teamsPath, TeamRecord.fileBytes records)
  | standings rows => some (output.standingsPath, StandingsRow.fileBytes rows)
  | link _ => none

/-- The run. -/
def Step.run (output : OutputSettings) : Step → Run Outcome
  | teams source => Outcome.teams <$> importTeams source.source output
  | standings source normalizer season =>
    Outcome.standings <$> fetchStandings source.source normalizer output season
  | link => Outcome.link <$> linkFiles output

/-- Runs one after the other, with the results of all of them. -/
def runAll (output : OutputSettings) :
    List Step → World → List (Except Failure Outcome) × World
  | [], world => ([], world)
  | step :: steps, world =>
    let (result, after) := (step.run output).exec world
    let (results, last) := runAll output steps after
    (result :: results, last)

/-- What a run with this result has put at a place, if anything. -/
def put? (output : OutputSettings) (files : FileTree) (place : Location)
    (result : Except Failure Outcome) : Option (List UInt8) :=
  (result.toOption.bind (Outcome.saved? output)).bind fun (path, bytes) ↦
    if files.destination path = place then some bytes else none

/-- What the last run has put at a place that has put anything there. -/
def lastPut? (output : OutputSettings) (files : FileTree) (place : Location)
    (results : List (Except Failure Outcome)) : Option (List UInt8) :=
  results.reverse.findSome? (put? output files place)

variable {output : OutputSettings} {files after : FileTree} {place : Location} {world : World}
  {result : Except Failure Outcome} {outcome : Outcome}

/-! ## One run -/

/-- How a run can end, and the files that it leaves then. -/
inductive Leaves (output : OutputSettings) (files : FileTree) :
    Except Failure Outcome → FileTree → Prop
  | saved {outcome : Outcome} {path : String} {bytes : List UInt8} {after : FileTree} :
      outcome.saved? output = some (path, bytes) →
      files.writeInPlace path bytes = (after, .ok ()) → Leaves output files (.ok outcome) after
  | linked (report : LinkReport) : Leaves output files (.ok (.link report)) files
  | stopped (failure : Failure) : Leaves output files (.error failure) files
  | unwritten {path : String} {bytes : List UInt8} {e : FileError} {after : FileTree} :
      files.writeInPlace path bytes = (after, .error e) →
      Leaves output files (.error (.file e)) after

theorem effect_map {α β : Type} (f : α → β) (run : Run α) (world : World) :
    (f <$> run).effect world = ((run.effect world).1.map f, (run.effect world).2) := by
  rw [map_eq_pure_bind, effect, effect, exec_bind]
  rcases run.exec world with ⟨failure | a, after⟩ <;> rfl

private theorem leaves_of_commit {α : Type} {path : String} {bytes : α → List UInt8}
    {wrap : α → Outcome} (hsaved : ∀ a, (wrap a).saved? output = some (path, bytes a))
    (answer : Except Failure α) (files : FileTree) :
    Leaves output files ((commit path bytes answer files).1.map wrap)
      (commit path bytes answer files).2 := by
  rcases hcommit : commit path bytes answer files with ⟨failure | a, after⟩
  · obtain rfl | ⟨a, e, rfl, hwrite⟩ := commit_eq_error hcommit
    · exact .stopped failure
    · exact .unwritten hwrite
  · obtain ⟨-, hwrite⟩ := commit_eq_ok_iff.mp hcommit
    exact .saved (hsaved a) hwrite

/-- **One run** ends in one of the four ways. -/
theorem Step.leaves (output : OutputSettings) (step : Step) (world : World) :
    Leaves output world.files ((step.run output).effect world).1
      ((step.run output).effect world).2 := by
  cases step with
  | teams source =>
    rw [Step.run, effect_map, effect_importTeams]
    exact leaves_of_commit (fun _ ↦ rfl) _ _
  | standings source normalizer season =>
    rw [Step.run, effect_map, effect_fetchStandings]
    exact leaves_of_commit (fun _ ↦ rfl) _ _
  | link =>
    rw [Step.run, effect_map, reads_linkFiles]
    cases linked output world.files with
    | error failure => exact .stopped failure
    | ok report => exact .linked report

theorem Leaves.workingDirectory (h : Leaves output files result after) :
    after.workingDirectory = files.workingDirectory := by
  cases h with
  | saved _ hwrite => exact (FileTree.writeInPlace_puts hwrite).workingDirectory
  | linked report => rfl
  | stopped failure => rfl
  | unwritten hwrite => exact (FileTree.writeInPlace_grows hwrite).workingDirectory

theorem Leaves.contents? (h : Leaves output files result after) (place : Location) :
    after.contents? place = (put? output files place result).or (files.contents? place) := by
  cases h with
  | @saved outcome path bytes _ hsaved hwrite =>
    rw [(FileTree.writeInPlace_puts hwrite).contents, put?, Except.toOption, Option.bind_some,
      hsaved, Option.bind_some]
    dsimp only
    by_cases hplace : files.destination path = place
    · rw [if_pos hplace.symm, if_pos hplace, Option.some_or]
    · rw [if_neg (Ne.symm hplace), if_neg hplace, Option.none_or]
  | linked report => rfl
  | stopped failure => rfl
  | unwritten hwrite => exact (FileTree.writeInPlace_grows hwrite).contents place

theorem Leaves.eq_of_error {failure : Failure} (h : Leaves output files (.error failure) after)
    (hfailure : ∀ e, failure ≠ .file e) : after = files := by
  cases h with
  | stopped failure => rfl
  | unwritten hwrite => exact absurd rfl (hfailure _)

/-! ## A run and the same run again -/

private theorem map_commit_again {α : Type} {path : String} {bytes : α → List UInt8}
    {wrap : α → Outcome} {answer : Except Failure α}
    (h : ((commit path bytes answer files).1.map wrap, (commit path bytes answer files).2) =
      (.ok outcome, after)) :
    ((commit path bytes answer after).1.map wrap, (commit path bytes answer after).2) =
      (.ok outcome, after) := by
  rcases hcommit : commit path bytes answer files with ⟨failure | a, written⟩
  · rw [hcommit] at h
    cases (Prod.mk.inj h).1
  · rw [hcommit] at h
    obtain ⟨houtcome, rfl⟩ := Prod.mk.inj h
    obtain ⟨hanswer, hwrite⟩ := commit_eq_ok_iff.mp hcommit
    rw [commit_eq_ok_iff.mpr ⟨hanswer, FileTree.writeInPlace_again hwrite⟩]
    exact Prod.ext houtcome rfl

/-- **Repeating a run** that has succeeded gives the same and leaves the tree as it is. -/
theorem Step.effect_again {step : Step} {again : World}
    (h : (step.run output).effect world = (.ok outcome, again.files)) :
    (step.run output).effect again = (.ok outcome, again.files) := by
  cases step with
  | teams source =>
    rw [Step.run, effect_map, effect_importTeams] at *
    exact map_commit_again h
  | standings source normalizer season =>
    rw [Step.run, effect_map, effect_fetchStandings] at *
    exact map_commit_again h
  | link =>
    rw [Step.run, effect_map, reads_linkFiles] at *
    obtain ⟨hreport, hfiles⟩ := Prod.mk.inj h
    rw [← hfiles, ← hreport]

/-! ## Histories -/

theorem lastPut?_cons (results : List (Except Failure Outcome)) :
    lastPut? output files place (result :: results) =
      (lastPut? output files place results).or (put? output files place result) := by
  rw [lastPut?, List.reverse_cons, List.findSome?_append, List.findSome?_singleton, lastPut?]

/-- What a result has put where does not depend on the tree, as long as paths start from the same
directory. -/
theorem lastPut?_congr (h : after.workingDirectory = files.workingDirectory) :
    lastPut? output after place = lastPut? output files place := by
  have hput : put? output after place = put? output files place := by
    funext result
    simp only [put?, FileTree.destination_congr h]
  funext results
  rw [lastPut?, lastPut?, hput]

theorem contents?_runAll (output : OutputSettings) (steps : List Step) (world : World)
    (place : Location) :
    (runAll output steps world).2.files.contents? place =
      (lastPut? output world.files place (runAll output steps world).1).or
        (world.files.contents? place) := by
  induction steps generalizing world with
  | nil => rfl
  | cons step steps ih =>
    have hleaves := step.leaves output world
    rw [effect] at hleaves
    rcases hrun : (step.run output).exec world with ⟨result, after⟩
    rw [hrun] at hleaves
    rw [runAll, hrun]
    dsimp only
    calc (runAll output steps after).2.files.contents? place
        = (lastPut? output world.files place (runAll output steps after).1).or
            (after.files.contents? place) := by rw [ih, lastPut?_congr hleaves.workingDirectory]
      _ = (lastPut? output world.files place (runAll output steps after).1).or
            ((put? output world.files place result).or (world.files.contents? place)) := by
          rw [hleaves.contents?]
      _ = (lastPut? output world.files place (result :: (runAll output steps after).1)).or
            (world.files.contents? place) := by rw [lastPut?_cons, Option.or_assoc]

/-- **The last writer wins.** Whatever the runs of a history, their sources and their results:

* every file has in the end the text of what the last run gave that succeeded and whose path leads
  to that file, or, if there is none, what it had in the beginning;
* a link leaves the tree as it is, and so does a run that fails, unless the file system has refused
  to write; then it may have made directories, but it has not touched a file;
* a run that has succeeded does the same again, and leaves the tree as it is. -/
theorem lastWriterWins (output : OutputSettings) :
    (∀ steps world place, (runAll output steps world).2.files.contents? place =
      (lastPut? output world.files place (runAll output steps world).1).or
        (world.files.contents? place)) ∧
    (∀ world result after, (Step.link.run output).exec world = (result, after) →
      after.files = world.files) ∧
    (∀ step world failure after, (Step.run output step).exec world = (.error failure, after) →
      (∀ place, after.files.contents? place = world.files.contents? place) ∧
        ((∀ e, failure ≠ .file e) → after.files = world.files)) ∧
    ∀ step world outcome after, (Step.run output step).exec world = (.ok outcome, after) →
      ∀ again, again.files = after.files →
        ∃ later, (Step.run output step).exec again = (.ok outcome, later) ∧
          later.files = after.files := by
  refine ⟨contents?_runAll output, ?_, ?_, ?_⟩
  · intro world result after h
    have hlink := effect_eq_iff.mpr ⟨after, h, rfl⟩
    rw [Step.run, effect_map, reads_linkFiles] at hlink
    exact (Prod.mk.inj hlink).2.symm
  · intro step world failure after h
    have hleaves := step.leaves output world
    rw [effect, h] at hleaves
    exact ⟨hleaves.contents?, hleaves.eq_of_error⟩
  · intro step world outcome after h again hagain
    have heffect := Step.effect_again (effect_eq_iff.mpr ⟨after, h, hagain.symm⟩)
    rw [hagain] at heffect
    exact effect_eq_iff.mp heffect

/-! ## A history with two writers of one file -/

/-- A source with two teams and no tables. -/
def twoTeamsSource : SteadySource :=
  .ofAnswers (.ok [⟨1, "Atlanta Hawks", "ATL", "Hawks", "Atlanta", "Georgia", 1949⟩,
    ⟨2, "Boston Celtics", "BOS", "Celtics", "Boston", "Massachusetts", 1946⟩]) fun _ ↦ .ok []

/-- The Celtics as a record. -/
def celtics : TeamRecord := ⟨2, "BOS", "Boston", "Boston Celtics"⟩

/-- The Hawks are imported and their standings fetched. Then both teams are imported and linked, and
at last there are no standings to be fetched. -/
def twoTeamsHistory : List Step :=
  [.teams (hawksSource (.int64 100)),
    .standings (hawksSource (.int64 100)) ({} : StandingsSettings).normalizer ⟨"2025-26"⟩,
    .teams twoTeamsSource, .link,
    .standings twoTeamsSource ({} : StandingsSettings).normalizer ⟨"2025-26"⟩]

private theorem effect_teams {s : SteadySource} {records : List TeamRecord}
    (hrecords : s.records = .ok records)
    (hwrite : world.files.writeInPlace output.teamsPath (TeamRecord.fileBytes records) =
      (after, .ok ())) :
    ((Step.teams s).run output).effect world = (.ok (.teams records), after) := by
  rw [Step.run, effect_map, effect_importTeams_eq_ok_iff.mpr ⟨hrecords, hwrite⟩]
  rfl

private theorem effect_standings {s : SteadySource} {normalizer : Normalizer} {season : Season}
    {rows : List StandingsRow} (hrows : s.rows normalizer season = .ok rows)
    (hwrite : world.files.writeInPlace output.standingsPath (StandingsRow.fileBytes rows) =
      (after, .ok ())) :
    ((Step.standings s normalizer season).run output).effect world =
      (.ok (.standings rows), after) := by
  rw [Step.run, effect_map, effect_fetchStandings_eq_ok_iff.mpr ⟨hrows, hwrite⟩]
  rfl

private theorem effect_standings_error {s : SteadySource} {normalizer : Normalizer}
    {season : Season} {failure : Failure} (hrows : s.rows normalizer season = .error failure) :
    ((Step.standings s normalizer season).run output).effect world =
      (.error failure, world.files) := by
  rw [Step.run, effect_map, effect_fetchStandings, hrows]
  rfl

private theorem effect_link {report : LinkReport} (h : linked output world.files = .ok report) :
    ((Step.link).run output).effect world = (.ok (.link report), world.files) := by
  rw [Step.run, effect_map, reads_linkFiles, h]
  rfl

theorem lastWriterWins_twoTeams : ∃ report last again,
    runAll {} twoTeamsHistory { files := .workingIn [] } =
      ([.ok (.teams [hawks]), .ok (.standings [hawksRow (.ofInt 100)]),
        .ok (.teams [hawks, celtics]), .ok (.link report),
        .error (.sourceUnavailable .noTables)], last) ∧
    last.files.contents? ["nba_teams.json"] = some (TeamRecord.fileBytes [hawks, celtics]) ∧
    last.files.contents? ["nba_team_stats.json"] =
      some (StandingsRow.fileBytes [hawksRow (.ofInt 100)]) ∧
    ((Step.teams twoTeamsSource).run {}).exec last = (.ok (.teams [hawks, celtics]), again) ∧
    again.files = last.files := by
  obtain ⟨hcontents, hlinks, hfails, hagain⟩ := lastWriterWins {}
  have hwrites : ∀ one two three, ∃ f₁ f₂ f₃,
      (FileTree.workingIn []).writeInPlace ({} : OutputSettings).teamsPath one = (f₁, .ok ()) ∧
      f₁.writeInPlace ({} : OutputSettings).standingsPath two = (f₂, .ok ()) ∧
      f₂.writeInPlace ({} : OutputSettings).teamsPath three = (f₃, .ok ()) :=
    fun _ _ _ ↦ ⟨_, _, _, rfl, rfl, rfl⟩
  obtain ⟨f₁, f₂, f₃, hwrite₁, hwrite₂, hwrite₃⟩ := hwrites (TeamRecord.fileBytes [hawks])
    (StandingsRow.fileBytes [hawksRow (.ofInt 100)]) (TeamRecord.fileBytes [hawks, celtics])
  have heffect₁ : ((Step.teams (hawksSource (.int64 100))).run {}).effect
      { files := .workingIn [] } = (.ok (.teams [hawks]), f₁) := effect_teams rfl hwrite₁
  obtain ⟨w₁, hrun₁, rfl⟩ := effect_eq_iff.mp heffect₁
  obtain ⟨w₂, hrun₂, rfl⟩ := effect_eq_iff.mp (effect_standings rows_hawksSource_hundred hwrite₂)
  have heffect₃ : ((Step.teams twoTeamsSource).run {}).effect w₂ =
      (.ok (.teams [hawks, celtics]), f₃) := effect_teams rfl hwrite₃
  obtain ⟨w₃, hrun₃, rfl⟩ := effect_eq_iff.mp heffect₃
  have hseparate : SeparateFiles {} w₁.files := by
    have hdirectory := (FileTree.writeInPlace_puts hwrite₁).workingDirectory
    rw [SeparateFiles, FileTree.destination_congr hdirectory, FileTree.destination_congr hdirectory]
    decide
  have hsaved := saved_of_standings_first hseparate hwrite₂ hwrite₃
  obtain ⟨report, hlinked⟩ : ∃ report, linked {} w₃.files = .ok report :=
    ⟨_, linked_of_saved hsaved (by decide +kernel)⟩
  obtain ⟨w₄, hrun₄, -⟩ := effect_eq_iff.mp (effect_link hlinked)
  have heffect₅ : ((Step.standings twoTeamsSource ({} : StandingsSettings).normalizer
      ⟨"2025-26"⟩).run {}).effect w₄ = (.error (.sourceUnavailable .noTables), w₄.files) :=
    effect_standings_error rfl
  obtain ⟨last, hrun₅, -⟩ := effect_eq_iff.mp heffect₅
  have hall : runAll {} twoTeamsHistory { files := .workingIn [] } =
      ([.ok (.teams [hawks]), .ok (.standings [hawksRow (.ofInt 100)]),
        .ok (.teams [hawks, celtics]), .ok (.link report),
        .error (.sourceUnavailable .noTables)], last) := by
    simp only [twoTeamsHistory, runAll, hrun₁, hrun₂, hrun₃, hrun₄, hrun₅]
  -- Neither the link nor the run that fails changes what the second import has left.
  have hlast : last.files = w₃.files :=
    ((hfails _ _ _ _ hrun₅).2 fun _ ↦ nofun).trans (hlinks _ _ _ hrun₄)
  obtain ⟨again, hrepeat, hsame⟩ := hagain _ _ _ _ hrun₃ last hlast
  have hteams := hcontents twoTeamsHistory { files := .workingIn [] } ["nba_teams.json"]
  have hstandings := hcontents twoTeamsHistory { files := .workingIn [] } ["nba_team_stats.json"]
  rw [hall] at hteams hstandings
  exact ⟨report, last, again, hall, hteams, hstandings, hrepeat, hsame.trans hlast.symm⟩

end LeagueStandings.Run
