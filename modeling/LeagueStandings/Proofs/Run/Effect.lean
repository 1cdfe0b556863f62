import LeagueStandings.Proofs.Run.Json
import LeagueStandings.Proofs.Standings.Codec
import LeagueStandings.Proofs.Team.Codec
import LeagueStandings.Run.Import
import LeagueStandings.Run.Link
import LeagueStandings.Run.Standings

/-!
# What runs do to files

Of a run on the world only two things matter here, its result and the files that it leaves
(`Run.effect`), and both come from the files that it finds. A link only reads (`Run.Reads`). The
team import and the standings run ask their source, compute records from the answer and then write
them, all or nothing; what they do is `Run.commit`.

## Sources

A source is asked by a run, so in principle it could do anything to the world. A `SteadySource`
answers: it gives the same answer whenever it is asked and leaves the files alone. What else it does
to the world, such as noting what it was asked for, is left open. The answer may be any list of
teams or tables and any failure (`SteadySource.ofAnswers`), and the statistics service is such a
source over every transport that answers (`SteadySource.service`).
-/

namespace LeagueStandings

namespace Run

variable {α β : Type}

/-- The result of a run and the files that it leaves. -/
def effect (run : Run α) (world : World) : Except Failure α × FileTree :=
  ((run.exec world).1, (run.exec world).2.files)

theorem effect_eq_iff {run : Run α} {world : World} {result : Except Failure α}
    {files : FileTree} :
    run.effect world = (result, files) ↔
      ∃ after, run.exec world = (result, after) ∧ after.files = files := by
  constructor
  · intro h
    obtain ⟨hresult, hfiles⟩ := Prod.mk.inj h
    exact ⟨_, Prod.ext hresult rfl, hfiles⟩
  · rintro ⟨after, h, rfl⟩
    rw [effect, h]

theorem exec_bind_eq_ok_iff {run : Run α} {next : α → Run β} {world after : World} {b : β} :
    (run >>= next).exec world = (.ok b, after) ↔
      ∃ a between, run.exec world = (.ok a, between) ∧ (next a).exec between = (.ok b, after) := by
  rw [exec_bind]
  rcases run.exec world with ⟨failure | a, between⟩
  · exact iff_of_false (fun h ↦ nomatch h) fun ⟨_, _, h, _⟩ ↦ nomatch h
  · constructor
    · intro h
      exact ⟨a, between, rfl, h⟩
    · rintro ⟨_, _, hrun, h⟩
      cases hrun
      exact h

/-! ## Runs that only read -/

/-- The run leaves the files alone, and its result comes from them. -/
def Reads (run : Run α) (answer : FileTree → Except Failure α) : Prop :=
  ∀ world, run.effect world = (answer world.files, world.files)

theorem reads_pure (a : α) : (pure a : Run α).Reads fun _ ↦ .ok a := fun _ ↦ rfl

theorem reads_ofExcept (answer : Except Failure α) :
    (ofExcept answer).Reads fun _ ↦ answer := by
  intro world
  rw [effect, exec_ofExcept]

theorem reads_report (level : Level) (message : String) :
    (report level message).Reads fun _ ↦ .ok () := fun _ ↦ rfl

theorem Reads.exec {run : Run α} {answer : FileTree → Except Failure α} (h : run.Reads answer)
    {world : World} {result : Except Failure α} (hanswer : answer world.files = result) :
    ∃ after, run.exec world = (result, after) ∧ after.files = world.files := by
  have heffect := h world
  rw [hanswer] at heffect
  exact effect_eq_iff.mp heffect

/-- What comes after a run that only reads finds the same files, unless that run fails. -/
theorem Reads.effect_bind {run : Run α} {answer : FileTree → Except Failure α}
    (h : run.Reads answer) (next : α → Run β) (world : World) :
    (∃ failure, answer world.files = .error failure ∧
      (run >>= next).effect world = (.error failure, world.files)) ∨
    ∃ a after, answer world.files = .ok a ∧ after.files = world.files ∧
      (run >>= next).effect world = (next a).effect after := by
  obtain ⟨after, hexec, hfiles⟩ := effect_eq_iff.mp (h world)
  cases hanswer : answer world.files with
  | error failure =>
    refine .inl ⟨failure, rfl, ?_⟩
    rw [effect, exec_bind, hexec, hanswer, ← hfiles]
  | ok a =>
    refine .inr ⟨a, after, rfl, hfiles, ?_⟩
    rw [effect, exec_bind, hexec, hanswer]
    rfl

theorem Reads.bind {run : Run α} {answer : FileTree → Except Failure α} {next : α → Run β}
    {answers : α → FileTree → Except Failure β} (h : run.Reads answer)
    (hnext : ∀ a, (next a).Reads (answers a)) :
    (run >>= next).Reads fun files ↦ answer files >>= fun a ↦ answers a files := by
  intro world
  obtain ⟨failure, hanswer, heffect⟩ | ⟨a, after, hanswer, hfiles, heffect⟩ :=
    h.effect_bind next world
  · dsimp only
    rw [heffect, hanswer, error_bind]
  · dsimp only
    rw [heffect, hnext a after, hfiles, hanswer, ok_bind]

theorem reads_forM (l : List α) {run : α → Run PUnit} (h : ∀ a, (run a).Reads fun _ ↦ .ok ()) :
    (l.forM run).Reads fun _ ↦ .ok () := by
  induction l with
  | nil => exact reads_pure ()
  | cons a l ih => exact (h a).bind fun _ ↦ ih

/-- What a file of JSON holds for a decoder. -/
def readFile (decoder : JsonTree.Decoder α) (path : String) (files : FileTree) :
    Except Failure α := do
  let bytes ← (files.read path).mapError .file
  (JsonTree.decode? decoder bytes).elim (.error .malformedJson) .ok

theorem readFile_of_read {decoder : JsonTree.Decoder α} {path : String} {files : FileTree}
    {bytes : List UInt8} (h : files.read path = .ok bytes) :
    readFile decoder path files =
      (JsonTree.decode? decoder bytes).elim (.error .malformedJson) .ok := by
  rw [readFile, h]
  rfl

theorem reads_readJson (decoder : JsonTree.Decoder α) (path : String) :
    (readJson decoder path).Reads (readFile decoder path) := by
  intro world
  cases hread : world.files.read path with
  | error e =>
    rw [effect, readJson, readFile, exec_bind, exec_get]
    dsimp only
    rw [exec_bind, exec_ofExcept, hread]
    rfl
  | ok bytes => rw [effect, exec_readJson decoder hread, readFile_of_read hread]

/-! ## Runs that write -/

/-- Puts an answer into a file, unless it is a failure. -/
def commit (path : String) (bytes : α → List UInt8) (answer : Except Failure α)
    (files : FileTree) : Except Failure α × FileTree :=
  match answer with
  | .error failure => (.error failure, files)
  | .ok a =>
    match files.writeInPlace path (bytes a) with
    | (files, .error e) => (.error (.file e), files)
    | (files, .ok ()) => (.ok a, files)

section Save

variable {path kind : String} {toJson : List α → Json} {records : List α} {world written : World}

/-- **Saving** writes the file, and if it is written that is all. -/
theorem exec_save (path kind : String) (toJson : List α → Json) (records : List α)
    (world : World) : ∃ after,
    (save path toJson kind records).exec world =
      ((world.files.writeInPlace path (Utf8.encode (toJson records).pretty)).2.mapError .file,
        after) ∧
    after.files = (world.files.writeInPlace path (Utf8.encode (toJson records).pretty)).1 := by
  rw [save, exec_bind, exec_writeJson]
  generalize world.files.writeInPlace path (Utf8.encode (toJson records).pretty) = written
  obtain ⟨files, e | _⟩ := written
  · exact ⟨_, rfl, rfl⟩
  · exact ⟨_, exec_report _ _ _, rfl⟩

theorem writeInPlace_of_save (h : (save path toJson kind records).exec world = (.ok (), written)) :
    world.files.writeInPlace path (Utf8.encode (toJson records).pretty) =
      (written.files, .ok ()) := by
  obtain ⟨after, hexec, hfiles⟩ := exec_save path kind toJson records world
  rw [h] at hexec
  obtain ⟨hresult, rfl⟩ := Prod.mk.inj hexec
  generalize world.files.writeInPlace path (Utf8.encode (toJson records).pretty) = result at *
  obtain ⟨files, e | _⟩ := result
  · cases hresult
  · exact Prod.ext hfiles.symm rfl

/-- A run that gets records and saves them does nothing to the files before all are there. -/
theorem effect_bind_save {get : Run (List α)} {answer : FileTree → Except Failure (List α)}
    (h : get.Reads answer) :
    (get >>= fun records ↦ save path toJson kind records >>= fun _ ↦ pure records).effect world =
      commit path (fun records ↦ Utf8.encode (toJson records).pretty) (answer world.files)
        world.files := by
  obtain ⟨failure, hanswer, heffect⟩ | ⟨records, after, hanswer, hfiles, heffect⟩ :=
    h.effect_bind (fun records ↦ save path toJson kind records >>= fun _ ↦ pure records) world
  · rw [heffect, hanswer, commit]
  · obtain ⟨saved, hexec, hsaved⟩ := exec_save path kind toJson records after
    rw [heffect, hanswer, commit, ← hfiles, effect, exec_bind, hexec]
    generalize after.files.writeInPlace path (Utf8.encode (toJson records).pretty) = written at *
    obtain ⟨files, e | _⟩ := written
    · exact Prod.ext rfl hsaved
    · exact Prod.ext rfl hsaved

end Save

end Run

/-! ## Sources that answer -/

open Run

/-- A source with the answers that it gives. -/
structure SteadySource where
  source : StatsSource
  teams : Except Failure (List Team)
  tables : Season → Except Failure (List Table)
  reads_teams : source.teams.Reads fun _ ↦ teams
  reads_tables : ∀ season, (source.tables season).Reads fun _ ↦ tables season

namespace SteadySource

/-- The source that has the given answers and does nothing else. -/
def ofAnswers (teams : Except Failure (List Team))
    (tables : Season → Except Failure (List Table)) : SteadySource where
  source := ⟨Run.ofExcept teams, fun season ↦ Run.ofExcept (tables season)⟩
  teams := teams
  tables := tables
  reads_teams := reads_ofExcept teams
  reads_tables season := reads_ofExcept (tables season)

/-- The statistics service over a transport that answers. -/
def service (settings : SourceSettings) (transport : Transport)
    (exchange : Url → Except Failure Exchange)
    (reads : ∀ url, (transport url).Reads fun _ ↦ exchange url) : SteadySource where
  source := .service settings transport
  teams := .ok Team.catalogue
  tables season := do
    let url ← (settings.request.url? season).mapError fun e ↦
      .configuration (.invalidBaseUrl settings.baseUrl e)
    let exchange ← exchange url
    StatsSource.tablesOfExchange exchange
  reads_teams := reads_pure _
  reads_tables _ := (reads_ofExcept _).bind fun url ↦
    (reads_report _ _).bind fun _ ↦ (reads url).bind fun _ ↦ reads_ofExcept _

/-- The records that an import gets from the source. -/
def records (s : SteadySource) : Except Failure (List TeamRecord) :=
  s.teams.map (List.map Team.record)

/-- The first of the tables that the source has for a season. -/
def firstTable (s : SteadySource) (season : Season) : Except Failure Table := do
  match ← s.tables season with
  | [] => .error (.sourceUnavailable .noTables)
  | table :: _ => .ok table

/-- The rows that a standings run gets from the source. -/
def rows (s : SteadySource) (normalizer : Normalizer) (season : Season) :
    Except Failure (List StandingsRow) := do
  normalizer.normalize (← s.firstTable season)

end SteadySource

/-! ## Imports, standings runs and links -/

namespace Run

/-- The part of an import that comes before the writing. -/
private def getRecords (source : StatsSource) : Run (List TeamRecord) := do
  info "Fetching NBA teams"
  let teams ← source.teams
  let records := teams.map Team.record
  info ("Loaded " ++ Text.integer records.length ++ " NBA teams")
  return records

/-- The part of a standings run that comes before the writing. -/
private def getRows (source : StatsSource) (normalizer : Normalizer) (season : Season) :
    Run (List StandingsRow) := do
  info ("Fetching NBA standings for " ++ season.token)
  let table ← source.tables season >>= firstTable
  info ("Columns available: " ++ commaSeparated table.headers)
  let rows ← normalizeTable normalizer table
  info ("Retrieved " ++ Text.integer rows.length ++ " NBA teams for " ++ season.token)
  (rows.take 5).forM fun row ↦ info (rowTitle row)
  return rows

private theorem reads_getRecords (s : SteadySource) :
    (getRecords s.source).Reads fun _ ↦ s.records := by
  have h : (getRecords s.source).Reads fun _ ↦
      s.teams >>= fun teams ↦ .ok (teams.map Team.record) :=
    (reads_report _ _).bind fun _ ↦ s.reads_teams.bind fun _ ↦
      (reads_report _ _).bind fun _ ↦ reads_pure _
  have hrecords : s.records = s.teams >>= fun teams ↦ .ok (teams.map Team.record) := by
    rw [SteadySource.records]
    cases s.teams <;> rfl
  exact hrecords ▸ h

private theorem reads_firstTable (s : SteadySource) (season : Season) :
    (s.source.tables season >>= firstTable).Reads fun _ ↦ s.firstTable season :=
  (s.reads_tables season).bind fun tables ↦ by
    cases tables with
    | nil => exact fun _ ↦ rfl
    | cons table tables => exact reads_pure table

private theorem reads_normalizeTable (normalizer : Normalizer) (table : Table) :
    (normalizeTable normalizer table).Reads fun _ ↦ normalizer.normalize table := by
  have h : (do
      let rows ← Run.ofExcept (normalizer.normalize table)
      info ("Normalized standings table '" ++ table.name ++ "'")
      return rows : Run (List StandingsRow)).Reads fun _ ↦ normalizer.normalize table >>= .ok :=
    (reads_ofExcept _).bind fun rows ↦ (reads_report _ _).bind fun _ ↦ reads_pure rows
  rw [show normalizer.normalize table >>= .ok = normalizer.normalize table from bind_pure _] at h
  rw [normalizeTable]
  dsimp only
  split
  · exact h
  · exact (reads_report _ _).bind fun _ ↦ h

private theorem reads_getRows (s : SteadySource) (normalizer : Normalizer) (season : Season) :
    (getRows s.source normalizer season).Reads fun _ ↦ s.rows normalizer season := by
  have h : (getRows s.source normalizer season).Reads fun _ ↦
      s.firstTable season >>= fun table ↦ normalizer.normalize table >>= .ok :=
    (reads_report _ _).bind fun _ ↦ (reads_firstTable s season).bind fun table ↦
      (reads_report _ _).bind fun _ ↦ (reads_normalizeTable normalizer table).bind fun rows ↦
        (reads_report _ _).bind fun _ ↦
          (reads_forM _ fun _ ↦ reads_report _ _).bind fun _ ↦ reads_pure rows
  have hrows : s.rows normalizer season =
      s.firstTable season >>= fun table ↦ normalizer.normalize table >>= .ok :=
    congrArg (s.firstTable season >>= ·) (funext fun table ↦ (bind_pure _).symm)
  exact hrows ▸ h

/-- **An import** commits the records that it gets. -/
theorem effect_importTeams (s : SteadySource) (output : OutputSettings) (world : World) :
    (importTeams s.source output).effect world =
      commit output.teamsPath TeamRecord.fileBytes s.records world.files := by
  have h : importTeams s.source output =
      getRecords s.source >>= fun records ↦ saveTeams output records >>= fun _ ↦ pure records := by
    simp only [importTeams, getRecords, bind_assoc, pure_bind]
  rw [h]
  exact effect_bind_save (reads_getRecords s)

/-- **A standings run** commits the rows that it gets. -/
theorem effect_fetchStandings (s : SteadySource) (normalizer : Normalizer)
    (output : OutputSettings) (season : Season) (world : World) :
    (fetchStandings s.source normalizer output season).effect world =
      commit output.standingsPath StandingsRow.fileBytes (s.rows normalizer season)
        world.files := by
  have h : fetchStandings s.source normalizer output season =
      getRows s.source normalizer season >>= fun rows ↦
        saveStandings output rows >>= fun _ ↦ pure rows := by
    simp only [fetchStandings, getRows, bind_assoc, pure_bind]
  rw [h]
  exact effect_bind_save (reads_getRows s normalizer season)

/-- The report on the files that earlier runs have written. -/
def linked (output : OutputSettings) (files : FileTree) : Except Failure LinkReport := do
  let teams ← readFile TeamRecord.listDecoder? output.teamsPath files
  let rows ← readFile StandingsRow.listDecoder? output.standingsPath files
  return link teams rows

/-- **A link** reads both files and links what they hold. -/
theorem reads_linkFiles (output : OutputSettings) : (linkFiles output).Reads (linked output) :=
  (reads_readJson _ _).bind fun _ ↦ (reads_readJson _ _).bind fun _ ↦
    (reads_report _ _).bind fun _ ↦ reads_pure _

/-! ## All or nothing -/

section Commit

variable {path : String} {bytes : α → List UInt8} {answer : Except Failure α}
  {files after : FileTree} {a : α} {failure : Failure}

theorem commit_eq_ok_iff : commit path bytes answer files = (.ok a, after) ↔
    answer = .ok a ∧ files.writeInPlace path (bytes a) = (after, .ok ()) := by
  cases answer with
  | error failure => exact iff_of_false (fun h ↦ nomatch h) (fun ⟨h, _⟩ ↦ nomatch h)
  | ok b =>
    rw [commit]
    constructor
    · intro h
      split at h
      · cases h
      · next hwrite =>
        cases h
        exact ⟨rfl, hwrite⟩
    · rintro ⟨h, hwrite⟩
      cases h
      rw [hwrite]

/-- A failure either comes before the writing and leaves the files as they were, or is one of the
file system. -/
theorem commit_eq_error (h : commit path bytes answer files = (.error failure, after)) :
    after = files ∨ ∃ a e, failure = .file e ∧
      files.writeInPlace path (bytes a) = (after, .error e) := by
  cases answer with
  | error failure =>
    cases h
    exact .inl rfl
  | ok a =>
    rw [commit] at h
    split at h
    · next e hwrite =>
      cases h
      exact .inr ⟨a, e, rfl, hwrite⟩
    · cases h

end Commit

theorem effect_importTeams_eq_ok_iff {s : SteadySource} {output : OutputSettings} {world : World}
    {records : List TeamRecord} {files : FileTree} :
    (importTeams s.source output).effect world = (.ok records, files) ↔
      s.records = .ok records ∧ world.files.writeInPlace output.teamsPath
        (TeamRecord.fileBytes records) = (files, .ok ()) := by
  rw [effect_importTeams, commit_eq_ok_iff]

theorem effect_fetchStandings_eq_ok_iff {s : SteadySource} {normalizer : Normalizer}
    {output : OutputSettings} {season : Season} {world : World} {rows : List StandingsRow}
    {files : FileTree} :
    (fetchStandings s.source normalizer output season).effect world = (.ok rows, files) ↔
      s.rows normalizer season = .ok rows ∧ world.files.writeInPlace output.standingsPath
        (StandingsRow.fileBytes rows) = (files, .ok ()) := by
  rw [effect_fetchStandings, commit_eq_ok_iff]

end Run

end LeagueStandings
