import LeagueStandings.Proofs.Json.Decoding
import LeagueStandings.Proofs.Run.Json
import LeagueStandings.Standings.Row

/-!
# The standings file reads back

Writing rows and reading the file gives the rows again, except for what the file does not keep: a
null and a number that is not finite both come back as an absent entry (`Entry.kept`). The points of
a row have no entry to be absent from, so a file with points that are not finite is refused
(`decode?_fileBytes`).

The finite numbers come back as what is read from their digits (`StandingsRow.reread`), which need
not be the same numbers. Where it is, nothing but the nulls and the infinities is lost. Rows that
were read from a file have none of these, so that from then on writing and reading change nothing
any more, whatever the file looked like (`decode?_fileBytes_of_decode?`).
-/

namespace LeagueStandings

open JsonTree

theorem Json.binary64_eq_null_iff {x : Binary64} :
    Json.binary64 x = .null ↔ x.isFinite = false := by
  cases x with
  | nan => exact iff_of_true rfl rfl
  | infinite negative => exact iff_of_true rfl rfl
  | finite negative magnitude => exact iff_of_false (fun h ↦ nomatch h) (fun h ↦ nomatch h)

namespace Entry

variable {α : Type} {write : α → Json} {keeps : α → Bool} {back : α → α}

/-- What a file keeps of an entry: a value, if it is kept, and nothing else. -/
def kept (keeps : α → Bool) : Entry α → Entry α
  | value a => if keeps a then value a else absent
  | _ => absent

theorem ofField_filter (keeps : α → Bool) (entry : Entry α) :
    ofField (entry.toOption.filter keeps) = entry.kept keeps := by
  cases entry with
  | absent => rfl
  | null => rfl
  | value a =>
    rw [toOption, Option.filter_some, kept]
    split <;> rfl

theorem kept_ofField {field : Option α} (h : ∀ a ∈ field, keeps a = true) :
    (ofField field).kept keeps = ofField field := by
  cases field with
  | none => rfl
  | some a => exact if_pos (h a rfl)

/-- What is written of an entry, if anything. -/
def json? (write : α → Json) : Entry α → Option Json
  | absent => none
  | null => some .null
  | value a => some (write a)

/-- The entry with another value. -/
def map (f : α → α) : Entry α → Entry α
  | value a => value (f a)
  | entry => entry

theorem ofField_map (f : α → α) (field : Option α) : ofField (field.map f) = (ofField field).map f := by
  cases field <;> rfl

theorem kept_map {f : α → α} (h : ∀ a, keeps (f a) = keeps a) (entry : Entry α) :
    (entry.map f).kept keeps = (entry.kept keeps).map f := by
  cases entry with
  | absent => rfl
  | null => rfl
  | value a =>
    rw [map, kept, kept, h]
    split <;> rfl

theorem field_eq (key : String) (write : α → Json) (entry : Entry α) :
    entry.field key write = (entry.json? write).toList.map (key, ·) := by
  cases entry <;> rfl

/-- **Reading an entry** gives what is read of its value, if the value is kept. -/
theorem optional?_eq {decoder : Decoder α} (h : Reads decoder write keeps back) {depth : Nat}
    {key : String} {fields : List (String × JsonTree)} {entry : Entry α}
    (hlookup : fields.lookup key = (entry.json? write).map Json.tree) :
    optional? decoder depth fields key = some ((entry.toOption.filter keeps).map back) := by
  cases entry with
  | absent => exact optional?_of_lookup_eq_none hlookup
  | null => exact optional?_of_lookup_eq_some hlookup
  | value a => rw [optional?_of_lookup_eq_some hlookup, h.nullable?]; rfl

end Entry

namespace StandingsRow

/-- What a file keeps of a row. -/
def kept (row : StandingsRow) : StandingsRow :=
  { row with
    city := row.city.kept fun _ ↦ true
    name := row.name.kept fun _ ↦ true
    conference := row.conference.kept fun _ ↦ true
    division := row.division.kept fun _ ↦ true
    wins := row.wins.kept fun _ ↦ true
    losses := row.losses.kept fun _ ↦ true
    winPct := row.winPct.kept Binary64.isFinite
    opponentPoints := row.opponentPoints.kept Binary64.isFinite
    pointsDifference := row.pointsDifference.kept Binary64.isFinite
    fullName := row.fullName.kept fun _ ↦ true }

/-- The row with the numbers that are read from the digits of its numbers. -/
def reread (row : StandingsRow) : StandingsRow :=
  { row with
    winPct := row.winPct.map Binary64.reread
    points := row.points.reread
    opponentPoints := row.opponentPoints.map Binary64.reread
    pointsDifference := row.pointsDifference.map Binary64.reread }

theorem kept_reread (row : StandingsRow) : row.reread.kept = row.kept.reread := by
  simp only [kept, reread, Entry.kept_map Binary64.isFinite_reread]

/-! ## Writing and reading a row -/

/-- The keys of a row with what is written under each of them. -/
def slots (row : StandingsRow) : List (String × Option Json) :=
  [("TEAM_ID", some (.int64 row.sourceTeamId)), ("team_city", row.city.json? .str),
    ("team_name", row.name.json? .str), ("conference", row.conference.json? .str),
    ("division", row.division.json? .str), ("wins", row.wins.json? .int64),
    ("losses", row.losses.json? .int64), ("win_pct", row.winPct.json? .binary64),
    ("points_per_game", some (.binary64 row.points)),
    ("opp_points_per_game", row.opponentPoints.json? .binary64),
    ("diff_points_pg", row.pointsDifference.json? .binary64),
    ("full_name", row.fullName.json? .str), ("team_id", some (.int64 row.teamId))]

theorem fields_eq (row : StandingsRow) : row.fields = filled row.slots := by
  simp [fields, slots, filled, Entry.field_eq]

theorem nodup_keys : keys.Nodup := by decide

theorem sublist_keys (row : StandingsRow) : (row.fields.map Prod.fst).Sublist keys :=
  fields_eq row ▸ sublist_map_filled _

/-- The fields of a row as they are found in a file. -/
def written (row : StandingsRow) : List (String × JsonTree) :=
  row.fields.map fun field ↦ (field.1, field.2.tree)

theorem lookup_written (row : StandingsRow) {key : String} {json? : Option Json}
    (h : (key, json?) ∈ row.slots) : row.written.lookup key = json?.map Json.tree := by
  have hnodup : (row.slots.map Prod.fst).Nodup := nodup_keys
  rw [written, lookup_map_snd, fields_eq, lookup_filled hnodup h]

section
variable {α : Type} {decoder : Decoder α} {write : α → Json} {keeps : α → Bool} {back : α → α}
  {key : String}

private theorem required?_written (row : StandingsRow) (depth : Nat) {a : α}
    (h : Reads decoder write keeps back) (hslot : (key, some (write a)) ∈ row.slots) :
    required? decoder depth row.written key = ((some a).filter keeps).map back :=
  h.required? (row.lookup_written hslot)

private theorem optional?_written (row : StandingsRow) (depth : Nat) {entry : Entry α}
    (h : Reads decoder write keeps back) (hslot : (key, entry.json? write) ∈ row.slots) :
    optional? decoder depth row.written key =
      some ((entry.toOption.filter keeps).map back) :=
  Entry.optional?_eq h (row.lookup_written hslot)

end

/-- **Reading a row** gives what the file keeps of it, with the numbers as they are read, if its
points are finite. -/
theorem ofFields?_written (row : StandingsRow) (depth : Nat) :
    ofFields? depth row.written =
      if row.points.isFinite then some row.reread.kept else none := by
  -- One fact for each key, in the order in which the keys are asked for.
  have hsource : required? int64? depth row.written "TEAM_ID" = some row.sourceTeamId :=
    row.required?_written depth reads_int64? (by simp [slots])
  have hcity : optional? string? depth row.written "team_city" =
      some ((row.city.toOption.filter fun _ ↦ true).map id) :=
    row.optional?_written depth reads_string? (by simp [slots])
  have hname : optional? string? depth row.written "team_name" =
      some ((row.name.toOption.filter fun _ ↦ true).map id) :=
    row.optional?_written depth reads_string? (by simp [slots])
  have hconference : optional? string? depth row.written "conference" =
      some ((row.conference.toOption.filter fun _ ↦ true).map id) :=
    row.optional?_written depth reads_string? (by simp [slots])
  have hdivision : optional? string? depth row.written "division" =
      some ((row.division.toOption.filter fun _ ↦ true).map id) :=
    row.optional?_written depth reads_string? (by simp [slots])
  have hwins : optional? int64? depth row.written "wins" =
      some ((row.wins.toOption.filter fun _ ↦ true).map id) :=
    row.optional?_written depth reads_int64? (by simp [slots])
  have hlosses : optional? int64? depth row.written "losses" =
      some ((row.losses.toOption.filter fun _ ↦ true).map id) :=
    row.optional?_written depth reads_int64? (by simp [slots])
  have hwinPct : optional? binary64? depth row.written "win_pct" =
      some ((row.winPct.toOption.filter Binary64.isFinite).map Binary64.reread) :=
    row.optional?_written depth reads_binary64? (by simp [slots])
  have hpoints : required? binary64? depth row.written "points_per_game" =
      ((some row.points).filter Binary64.isFinite).map Binary64.reread :=
    row.required?_written depth reads_binary64? (by simp [slots])
  have hopponent : optional? binary64? depth row.written "opp_points_per_game" =
      some ((row.opponentPoints.toOption.filter Binary64.isFinite).map Binary64.reread) :=
    row.optional?_written depth reads_binary64? (by simp [slots])
  have hdifference : optional? binary64? depth row.written "diff_points_pg" =
      some ((row.pointsDifference.toOption.filter Binary64.isFinite).map Binary64.reread) :=
    row.optional?_written depth reads_binary64? (by simp [slots])
  have hfullName : optional? string? depth row.written "full_name" =
      some ((row.fullName.toOption.filter fun _ ↦ true).map id) :=
    row.optional?_written depth reads_string? (by simp [slots])
  have hteamId : required? int64? depth row.written "team_id" = some row.teamId :=
    row.required?_written depth reads_int64? (by simp [slots])
  simp only [ofFields?, hsource, hcity, hname, hconference, hdivision, hwins, hlosses, hwinPct,
    hpoints, hopponent, hdifference, hfullName, hteamId, Option.bind_eq_bind, Option.bind_some,
    Option.filter_some, Option.map_id_fun, id, Entry.ofField_map, Entry.ofField_filter, kept_reread]
  split <;> rfl

theorem decoder?_toJson (row : StandingsRow) (depth : Nat) :
    decoder? (depth + 1) row.toJson.tree =
      if row.points.isFinite then some row.reread.kept else none := by
  rw [decoder?, toJson, record?_obj _ _ row.sublist_keys nodup_keys]
  exact row.ofFields?_written depth

/-! ## Rows that were read -/

private theorem isFinite_of_optional? {depth : Nat} {written : List (String × JsonTree)}
    {key : String} {field : Option Binary64}
    (h : optional? binary64? depth written key = some field) : ∀ x ∈ field, x.isFinite = true := by
  rintro x rfl
  obtain ⟨t, ht⟩ := exists_of_optional?_eq_some h
  exact isFinite_of_binary64? ht

/-- A row that was read has finite points and is kept in full. -/
theorem kept_of_ofFields? {depth : Nat} {written : List (String × JsonTree)} {row : StandingsRow}
    (h : ofFields? depth written = some row) : row.points.isFinite = true ∧ row.kept = row := by
  obtain ⟨source, -, h⟩ := Option.bind_eq_some_iff.mp h
  obtain ⟨city, -, h⟩ := Option.bind_eq_some_iff.mp h
  obtain ⟨name, -, h⟩ := Option.bind_eq_some_iff.mp h
  obtain ⟨conference, -, h⟩ := Option.bind_eq_some_iff.mp h
  obtain ⟨division, -, h⟩ := Option.bind_eq_some_iff.mp h
  obtain ⟨wins, -, h⟩ := Option.bind_eq_some_iff.mp h
  obtain ⟨losses, -, h⟩ := Option.bind_eq_some_iff.mp h
  obtain ⟨winPct, hwinPct, h⟩ := Option.bind_eq_some_iff.mp h
  obtain ⟨points, hpoints, h⟩ := Option.bind_eq_some_iff.mp h
  obtain ⟨opponent, hopponent, h⟩ := Option.bind_eq_some_iff.mp h
  obtain ⟨difference, hdifference, h⟩ := Option.bind_eq_some_iff.mp h
  obtain ⟨fullName, -, h⟩ := Option.bind_eq_some_iff.mp h
  obtain ⟨teamId, -, h⟩ := Option.bind_eq_some_iff.mp h
  cases h
  obtain ⟨t, -, hpoints⟩ := Option.bind_eq_some_iff.mp hpoints
  refine ⟨isFinite_of_binary64? hpoints, ?_⟩
  simp only [kept, Entry.kept_ofField fun _ _ ↦ rfl,
    Entry.kept_ofField (isFinite_of_optional? hwinPct),
    Entry.kept_ofField (isFinite_of_optional? hopponent),
    Entry.kept_ofField (isFinite_of_optional? hdifference)]

theorem kept_of_decoder? {depth : Nat} {t : JsonTree} {row : StandingsRow}
    (h : decoder? depth t = some row) : row.points.isFinite = true ∧ row.kept = row := by
  cases depth with
  | zero => cases h
  | succ depth =>
    obtain ⟨written, -, h⟩ := Option.bind_eq_some_iff.mp h
    exact kept_of_ofFields? h

/-! ## Files -/

/-- The bytes of a file of rows. -/
def fileBytes (rows : List StandingsRow) : List UInt8 := Utf8.encode (listToJson rows).pretty

/-- **Reading a file** that was written gives what it keeps of the rows, with the numbers as they
are read, if all the points are finite. -/
theorem decode?_fileBytes (rows : List StandingsRow) :
    decode? listDecoder? (fileBytes rows) =
      if ∀ row ∈ rows, row.points.isFinite then some ((rows.map reread).map kept) else none := by
  rw [decode?, fileBytes, Json.ofBytes?_pretty, Option.bind_some, listToJson, listDecoder?,
    depthLimit, list?_arr, List.mapM_map, List.map_map, ← mapM_ite]
  simp only [Function.comp_def, decoder?_toJson]

/-- **Reading again** gives the rows that were read before, if their numbers read back. -/
theorem decode?_fileBytes_of_decode? {bytes : List UInt8} {rows : List StandingsRow}
    (h : decode? listDecoder? bytes = some rows) (hreread : rows.map reread = rows) :
    decode? listDecoder? (fileBytes rows) = some rows := by
  have hrows : ∀ row ∈ rows, row.points.isFinite = true ∧ row.kept = row := by
    intro row hrow
    obtain ⟨t, -, h⟩ := Option.bind_eq_some_iff.mp h
    cases t with
    | list items =>
      obtain ⟨item, -, hitem⟩ := exists_of_mem_mapM h hrow
      exact kept_of_decoder? hitem
    | _ => cases h
  have hkept : rows.map kept = rows :=
    (List.map_congr_left fun row hrow ↦ (hrows row hrow).2).trans (List.map_id rows)
  rw [decode?_fileBytes, if_pos fun row hrow ↦ (hrows row hrow).1, hreread, hkept]

/-- **The standings file reads back.** Reading the bytes that were written gives what the file keeps
of the rows, with their numbers as they are read, if all the points are finite, and is refused
otherwise; if the numbers read back, it is just what the file keeps. Whatever bytes rows were read
from, if the numbers in them read back, writing and reading these rows gives them again, and writing
them once more gives the same bytes. And these are the bytes that a file holds after a run has
written it, and what a run reads from it. -/
theorem readsBack :
    (∀ rows, decode? listDecoder? (fileBytes rows) =
      if ∀ row ∈ rows, row.points.isFinite then some ((rows.map reread).map kept) else none) ∧
    (∀ rows, rows.map reread = rows → decode? listDecoder? (fileBytes rows) =
      if ∀ row ∈ rows, row.points.isFinite then some (rows.map kept) else none) ∧
    (∀ bytes rows, decode? listDecoder? bytes = some rows → rows.map reread = rows →
      decode? listDecoder? (fileBytes rows) = some rows ∧
        ∀ again, decode? listDecoder? (fileBytes rows) = some again →
          fileBytes again = fileBytes rows) ∧
    ∀ path rows world written,
      (Run.writeJson path (listToJson rows)).exec world = (.ok (), written) →
        written.files.read path = .ok (fileBytes rows) ∧
          (Run.readJson listDecoder? path).exec written =
            ((decode? listDecoder? (fileBytes rows)).elim (.error .malformedJson) .ok,
              written) := by
  refine ⟨decode?_fileBytes, fun rows hreread ↦ ?_, fun bytes rows h hreread ↦ ?_,
    fun path rows world written h ↦ ?_⟩
  · rw [decode?_fileBytes, hreread]
  · have hagain := decode?_fileBytes_of_decode? h hreread
    refine ⟨hagain, fun again h' ↦ ?_⟩
    rw [hagain] at h'
    cases h'
    rfl
  · have hread := Run.read_of_writeJson h
    exact ⟨hread, Run.exec_readJson listDecoder? hread⟩

/-- A row with absent entries, nulls, an infinity, a NaN and a number with a fraction. -/
def mixedRow : StandingsRow where
  sourceTeamId := 1
  city := .null
  name := .value "Hawks"
  conference := .absent
  division := .absent
  wins := .value 3
  losses := .null
  winPct := .value (.infinite true)
  points := .ofRatio false 225 2
  opponentPoints := .value .nan
  pointsDifference := .value (.finite true .zero)
  fullName := .absent
  teamId := 1

theorem readsBack_mixedRow :
    mixedRow.reread = mixedRow ∧ mixedRow.kept ≠ mixedRow ∧
      decode? listDecoder? (fileBytes [mixedRow.kept]) = some [mixedRow.kept] ∧
      ∃ world written,
        (Run.writeJson "standings.json" (listToJson [mixedRow])).exec world = (.ok (), written) ∧
          (Run.readJson listDecoder? "standings.json").exec written =
            (.ok [mixedRow.kept], written) := by
  obtain ⟨-, hbytes, hagain, hfiles⟩ := readsBack
  have hfinite : ∀ row ∈ [mixedRow], row.points.isFinite = true := by decide +kernel
  have hreread : mixedRow.reread = mixedRow := by decide +kernel
  have hreread' : mixedRow.kept.reread = mixedRow.kept := by rw [← kept_reread, hreread]
  have hread : decode? listDecoder? (fileBytes [mixedRow]) = some [mixedRow.kept] :=
    (hbytes [mixedRow] (congrArg (fun row ↦ [row]) hreread)).trans (if_pos hfinite)
  obtain ⟨written, hwrite⟩ : ∃ written, (Run.writeJson "standings.json"
      (listToJson [mixedRow])).exec { files := .workingIn [] } = (.ok (), written) :=
    ⟨_, Run.exec_writeJson _ _ _⟩
  refine ⟨hreread, by decide +kernel, (hagain _ _ hread (congrArg (fun row ↦ [row]) hreread')).1, _,
    written, hwrite, ?_⟩
  rw [(hfiles _ _ _ _ hwrite).2, hread]
  rfl

end StandingsRow

end LeagueStandings
