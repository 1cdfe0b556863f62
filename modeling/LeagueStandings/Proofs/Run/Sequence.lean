import LeagueStandings.Proofs.Configuration.Loading
import LeagueStandings.Proofs.Run.Linking
import LeagueStandings.Proofs.Standings.Outcomes

/-!
# An import, a standings run and a link

Three runs under one configuration, one after the other. The first two write a file each and the
third reads both. It can, if the files are two and the points that were written are finite numbers
(`linkFiles_after_runs`).

Neither is checked when a configuration is loaded. A configuration may name one file for both
lists, and then the later run replaces what the earlier one wrote. It may also leave the range of
points without a bound, and then an infinite number of points is written, as null, and cannot be
read again. `not_linkFiles_after_runs` has one configuration of each kind, and a run under the
default configuration of which the link reads other points than were written.
-/

namespace LeagueStandings.Run

variable {output : OutputSettings} {teamSource source : SteadySource} {season : Season}
  {records : List TeamRecord} {rows : List StandingsRow} {world imported fetched : World}

/-! ## The runs one after the other -/

theorem exists_runs {normalizer : Normalizer} (hrecords : teamSource.records = .ok records)
    (hrows : source.rows normalizer season = .ok rows)
    (hwrites : ∀ bytes bytes', ∃ between after,
      world.files.writeInPlace output.teamsPath bytes = (between, .ok ()) ∧
        between.writeInPlace output.standingsPath bytes' = (after, .ok ())) :
    ∃ imported fetched,
      (importTeams teamSource.source output).exec world = (.ok records, imported) ∧
      (fetchStandings source.source normalizer output season).exec imported =
        (.ok rows, fetched) := by
  obtain ⟨between, after, hteams, hstandings⟩ :=
    hwrites (TeamRecord.fileBytes records) (StandingsRow.fileBytes rows)
  obtain ⟨imported, himport, rfl⟩ :=
    effect_eq_iff.mp (effect_importTeams_eq_ok_iff.mpr ⟨hrecords, hteams⟩)
  obtain ⟨fetched, hfetch, -⟩ :=
    effect_eq_iff.mp (effect_fetchStandings_eq_ok_iff.mpr ⟨hrows, hstandings⟩)
  exact ⟨imported, fetched, himport, hfetch⟩

theorem writes_of_runs {normalizer : Normalizer}
    (himport : (importTeams teamSource.source output).exec world = (.ok records, imported))
    (hfetch : (fetchStandings source.source normalizer output season).exec imported =
      (.ok rows, fetched)) :
    source.rows normalizer season = .ok rows ∧
      world.files.writeInPlace output.teamsPath (TeamRecord.fileBytes records) =
        (imported.files, .ok ()) ∧
      imported.files.writeInPlace output.standingsPath (StandingsRow.fileBytes rows) =
        (fetched.files, .ok ()) := by
  obtain ⟨-, hteams⟩ :=
    effect_importTeams_eq_ok_iff.mp (effect_eq_iff.mpr ⟨imported, himport, rfl⟩)
  obtain ⟨hrows, hstandings⟩ :=
    effect_fetchStandings_eq_ok_iff.mp (effect_eq_iff.mpr ⟨fetched, hfetch, rfl⟩)
  exact ⟨hrows, hteams, hstandings⟩

/-- **What an import and a standings run leave for a link.** After both have succeeded under one
configuration, whatever their sources answered:

* if the configuration names two different files and the points of the rows are finite, both files
  are read, the standings with the numbers that are read from their digits, and the link succeeds
  and reports on every imported team;
* the points are finite if both bounds of the range are;
* if the configuration names one file for both lists, the standings have replaced the team list,
  so that the link has no teams to report on, and fails unless there are no rows either. -/
theorem linkFiles_after_runs {c : Configuration}
    (himport : (importTeams teamSource.source c.output).exec world = (.ok records, imported))
    (hfetch : (fetchStandings source.source c.standings.normalizer c.output season).exec imported =
      (.ok rows, fetched)) :
    (SeparateFiles c.output world.files → (∀ row ∈ rows, row.points.isFinite = true) →
      readFile TeamRecord.listDecoder? c.output.teamsPath fetched.files = .ok records ∧
      readFile StandingsRow.listDecoder? c.output.standingsPath fetched.files =
        .ok ((rows.map StandingsRow.reread).map StandingsRow.kept) ∧
      ∃ report after, (linkFiles c.output).exec fetched = (.ok report, after) ∧
        report.matched.length + report.unmatched.length = records.length) ∧
    (c.standings.lowestPoints.isFinite = true → c.standings.highestPoints.isFinite = true →
      ∀ row ∈ rows, row.points.isFinite = true) ∧
    (¬ SeparateFiles c.output world.files → ∃ after, (linkFiles c.output).exec fetched =
      (if rows = [] then .ok ⟨[], []⟩ else .error .malformedJson, after)) := by
  obtain ⟨hrows, hteams, hstandings⟩ := writes_of_runs himport hfetch
  refine ⟨fun hseparate hfinite ↦ ?_, fun hlowest hhighest ↦ ?_, fun hone ↦ ?_⟩
  · have hsaved := saved_of_teams_first hseparate hteams hstandings
    obtain ⟨after, hexec, -⟩ :=
      (reads_linkFiles c.output).exec (linked_of_saved hsaved hfinite)
    exact ⟨readFile_teams hsaved, readFile_standings hsaved hfinite, _, after, hexec,
      length_link records _⟩
  · obtain ⟨table, -, htable⟩ := bind_eq_ok_iff.mp hrows
    exact Normalizer.isFinite_points_of_normalize hlowest hhighest htable
  · obtain ⟨hfirst, hsecond⟩ :=
      FileTree.read_of_writeInPlace_of_eq (not_not.mp hone) hteams hstandings
    obtain ⟨after, hexec, -⟩ :=
      (reads_linkFiles c.output).exec (linked_of_overwritten hfirst hsecond)
    exact ⟨after, hexec⟩

/-! ## One team under three configurations -/

/-- A source with one team, the Hawks, and a table with one row, theirs. -/
def hawksSource (points : Json) : SteadySource :=
  .ofAnswers (.ok [⟨1, "Atlanta Hawks", "ATL", "Hawks", "Atlanta", "Georgia", 1949⟩]) fun _ ↦
    .ok [⟨"Standings", ["TeamID", "PointsPG"], [[.int64 1, points]]⟩]

private theorem eq_ok_of_toOption {ε α : Type} {result : Except ε α} {a : α}
    (h : result.toOption = some a) : result = .ok a := by
  cases result with
  | error e => cases h
  | ok b => exact congrArg Except.ok (Option.some.inj h)

theorem rows_hawksSource_hundred :
    (hawksSource (.int64 100)).rows ({} : StandingsSettings).normalizer ⟨"2025-26"⟩ =
      .ok [hawksRow (.ofInt 100)] :=
  eq_ok_of_toOption (by decide +kernel)

/-- With the default configuration the link succeeds and reports on the team. -/
theorem linkFiles_after_runs_default : ∃ imported fetched report after,
    (importTeams (hawksSource (.int64 100)).source {}).exec { files := .workingIn [] } =
      (.ok [hawks], imported) ∧
    (fetchStandings (hawksSource (.int64 100)).source ({} : StandingsSettings).normalizer {}
      ⟨"2025-26"⟩).exec imported = (.ok [hawksRow (.ofInt 100)], fetched) ∧
    (linkFiles {}).exec fetched = (.ok report, after) ∧
    report.matched.length + report.unmatched.length = 1 := by
  have hruns : ∃ imported fetched,
      (importTeams (hawksSource (.int64 100)).source {}).exec { files := .workingIn [] } =
        (.ok [hawks], imported) ∧
      (fetchStandings (hawksSource (.int64 100)).source ({} : StandingsSettings).normalizer {}
        ⟨"2025-26"⟩).exec imported = (.ok [hawksRow (.ofInt 100)], fetched) :=
    exists_runs rfl rows_hawksSource_hundred fun _ _ ↦ ⟨_, _, rfl, rfl⟩
  obtain ⟨imported, fetched, himport, hfetch⟩ := hruns
  obtain ⟨hseparate, hfinite, -⟩ := linkFiles_after_runs (c := {}) himport hfetch
  obtain ⟨-, -, report, after, hlink, hlength⟩ :=
    hseparate (by decide) (hfinite (by decide +kernel) (by decide +kernel))
  exact ⟨imported, fetched, report, after, himport, hfetch, hlink, hlength⟩

/-- The tree of a directory with nothing in it but a configuration file. -/
def configured (text : String) : FileTree :=
  (FileTree.workingIn []).set ["sports_stats.toml"] (.file (Utf8.encode text))

/-- Both lists go to one file. -/
def oneFileText : String := "[output]\nstandings_file = \"nba_teams.json\"\n"

/-- What that text configures. -/
def oneFile : Configuration := { output := { standingsFile := "nba_teams.json" } }

/-- There is no upper bound to the points. -/
def unboundedText : String := "[standings]\nmax_points_per_game = inf\n"

/-- What that text configures. -/
def unbounded : Configuration := { standings := { highestPoints := .infinite false } }

/-- The text loads as the configuration, and under it an import of the Hawks and a standings run
with their points succeed, and then the link fails. -/
def LinkFails (text : String) (c : Configuration) (points : Json) (row : StandingsRow) : Prop :=
  Configuration.load (configured text) none = .ok c ∧ ∃ imported fetched after,
    (importTeams (hawksSource points).source c.output).exec { files := configured text } =
      (.ok [hawks], imported) ∧
    (fetchStandings (hawksSource points).source c.standings.normalizer c.output
      ⟨"2025-26"⟩).exec imported = (.ok [row], fetched) ∧
    (linkFiles c.output).exec fetched = (.error .malformedJson, after)

section
variable {text : String} {c : Configuration} {points : Json} {row : StandingsRow}

private theorem load_configured (htext : Configuration.ofText? text = some c)
    (hrange : c.standings.highestPoints.lt c.standings.lowestPoints = false)
    (htimeout : 0 < c.source.timeoutSeconds) :
    Configuration.load (configured text) none = .ok c :=
  (Configuration.load_defaultFile rfl rfl htext).trans
    (Configuration.validate_eq_ok_iff.mpr ⟨rfl, hrange, htimeout⟩)

private theorem linkFails_of_linked (hload : Configuration.load (configured text) none = .ok c)
    (hrows : (hawksSource points).rows c.standings.normalizer ⟨"2025-26"⟩ = .ok [row])
    (hwrites : ∀ bytes bytes', ∃ between after,
      (configured text).writeInPlace c.output.teamsPath bytes = (between, .ok ()) ∧
        between.writeInPlace c.output.standingsPath bytes' = (after, .ok ()))
    (hlinked : ∀ {between after},
      (configured text).writeInPlace c.output.teamsPath (TeamRecord.fileBytes [hawks]) =
        (between, .ok ()) →
      between.writeInPlace c.output.standingsPath (StandingsRow.fileBytes [row]) =
        (after, .ok ()) →
      linked c.output after = .error .malformedJson) :
    LinkFails text c points row := by
  have hrecords : (hawksSource points).records = .ok [hawks] := rfl
  have hruns : ∃ imported fetched,
      (importTeams (hawksSource points).source c.output).exec { files := configured text } =
        (.ok [hawks], imported) ∧
      (fetchStandings (hawksSource points).source c.standings.normalizer c.output
        ⟨"2025-26"⟩).exec imported = (.ok [row], fetched) :=
    exists_runs hrecords hrows hwrites
  obtain ⟨imported, fetched, himport, hfetch⟩ := hruns
  obtain ⟨-, hteams, hstandings⟩ := writes_of_runs himport hfetch
  obtain ⟨after, hlink, -⟩ := (reads_linkFiles c.output).exec (hlinked hteams hstandings)
  exact ⟨hload, imported, fetched, after, himport, hfetch, hlink⟩

end

/-- Under the default configuration an import of the Hawks and a standings run with their points
succeed, and then the standings file is not read as the row that was written. -/
def ReadsOtherwise (points : Json) (row : StandingsRow) : Prop :=
  ∃ imported fetched,
    (importTeams (hawksSource points).source {}).exec { files := .workingIn [] } =
      (.ok [hawks], imported) ∧
    (fetchStandings (hawksSource points).source ({} : StandingsSettings).normalizer {}
      ⟨"2025-26"⟩).exec imported = (.ok [row], fetched) ∧
    readFile StandingsRow.listDecoder? ({} : OutputSettings).standingsPath fetched.files ≠
      .ok [row.kept]

private theorem readsOtherwise_of_rows {points : Json} {row : StandingsRow}
    (hrows : (hawksSource points).rows ({} : StandingsSettings).normalizer ⟨"2025-26"⟩ = .ok [row])
    (hfinite : row.points.isFinite = true) (hne : row.reread.kept ≠ row.kept) :
    ReadsOtherwise points row := by
  have hruns : ∃ imported fetched,
      (importTeams (hawksSource points).source {}).exec { files := .workingIn [] } =
        (.ok [hawks], imported) ∧
      (fetchStandings (hawksSource points).source ({} : StandingsSettings).normalizer {}
        ⟨"2025-26"⟩).exec imported = (.ok [row], fetched) :=
    exists_runs rfl hrows fun _ _ ↦ ⟨_, _, rfl, rfl⟩
  obtain ⟨imported, fetched, himport, hfetch⟩ := hruns
  obtain ⟨-, hteams, hstandings⟩ := writes_of_runs himport hfetch
  have hsaved := saved_of_teams_first (by decide) hteams hstandings
  refine ⟨imported, fetched, himport, hfetch, ?_⟩
  rw [readFile_standings hsaved (List.forall_mem_singleton.mpr hfinite)]
  exact fun heq ↦ hne (List.singleton_inj.mp (Except.ok.inj heq))

/-- **Runs that a link does not follow up.** Under two configurations the link fails after both runs
have succeeded: one has a single file, and one has no upper bound to the points. Under the default
configuration it may read other points than were written. -/
theorem not_linkFiles_after_runs :
    LinkFails oneFileText oneFile (.int64 100) (hawksRow (.ofInt 100)) ∧
      LinkFails unboundedText unbounded (.str "inf") (hawksRow (.infinite false)) ∧
      ReadsOtherwise (.str "90.33333333333333") (hawksRow (.ofRatio false 271 3)) := by
  refine ⟨?_, ?_, ?_⟩
  · refine linkFails_of_linked
      (load_configured (by decide +kernel) (by decide +kernel) (by decide))
      rows_hawksSource_hundred (fun _ _ ↦ ⟨_, _, rfl, rfl⟩) fun hteams hstandings ↦ ?_
    obtain ⟨hfirst, hsecond⟩ := FileTree.read_of_writeInPlace_of_eq rfl hteams hstandings
    rw [linked_of_overwritten hfirst hsecond, if_neg (List.cons_ne_nil _ _)]
  · refine linkFails_of_linked
      (load_configured (by decide +kernel) (by decide +kernel) (by decide))
      (eq_ok_of_toOption (by decide +kernel)) (fun _ _ ↦ ⟨_, _, rfl, rfl⟩)
      fun hteams hstandings ↦ ?_
    have hinfinite : ¬ ∀ row ∈ [hawksRow (.infinite false)], row.points.isFinite = true := by
      decide
    exact linked_of_not_isFinite (saved_of_teams_first (by decide) hteams hstandings) hinfinite
  · exact readsOtherwise_of_rows (eq_ok_of_toOption (by decide +kernel)) (by decide +kernel)
      (by decide +kernel)

end LeagueStandings.Run
