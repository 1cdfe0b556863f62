import LeagueStandings.LinkReport
import LeagueStandings.Proofs.Standings.Codec
import LeagueStandings.Proofs.Standings.Outcomes

/-!
# The keys of the written rows

All rows that come from one table are written with the same keys. Which ones these are can be read
off the headers of the table (`writtenKeys`): a cell decides over the value under a key, and never
over the key.

Some cells have no value to write (`Json.IsVacant`), and neither has a row that ends before its
column. Under their keys there is a null, and under the other keys there is none. The identifier is
never null, because a row without one is refused.
-/

namespace LeagueStandings

/-! ## Cells without a value -/

/-- The cell has nothing to write for a column of the kind: it is null, or blank text where a number
is expected, or a number that is not finite. -/
def Json.IsVacant (kind : CellKind) (cell : Json) : Prop :=
  cell = .null ∨ (kind ≠ .text ∧ ∃ s, cell = .str s ∧ Text.isBlankText s = true) ∨
    kind = .number ∧ ∃ x, cell.numberCell = .ok (some x) ∧ x.isFinite = false

namespace Json

variable {cell : Json}

theorem textCell_eq_none_iff : cell.textCell = .ok none ↔ cell = .null := by
  cases cell with
  | null => exact iff_of_true rfl rfl
  | _ => exact iff_of_false (fun h ↦ nomatch h) (fun h ↦ nomatch h)

theorem integerCell_eq_none_iff :
    cell.integerCell = .ok none ↔
      cell = .null ∨ ∃ s, cell = .str s ∧ Text.isBlankText s = true := by
  constructor
  · intro h
    unfold integerCell at h
    split at h
    · exact .inl rfl
    · split at h <;> cases h
    · next s =>
      by_cases hblank : Text.isBlankText s = true
      · exact .inr ⟨s, rfl, hblank⟩
      · rw [if_neg hblank] at h
        split at h <;> cases h
    · cases h
  · rintro (rfl | ⟨s, rfl, hblank⟩)
    · rfl
    · exact if_pos hblank

theorem numberCell_eq_none_iff :
    cell.numberCell = .ok none ↔
      cell = .null ∨ ∃ s, cell = .str s ∧ Text.isBlankText s = true := by
  constructor
  · intro h
    unfold numberCell at h
    split at h
    · exact .inl rfl
    · cases h
    · next s =>
      by_cases hblank : Text.isBlankText s = true
      · exact .inr ⟨s, rfl, hblank⟩
      · rw [if_neg hblank] at h
        split at h <;> cases h
    · cases h
  · rintro (rfl | ⟨s, rfl, hblank⟩)
    · rfl
    · exact if_pos hblank

theorem ofOption_str_eq_null_iff {value : Option String} (h : cell.textCell = .ok value) :
    ofOption .str value = .null ↔ cell.IsVacant .text := by
  cases value with
  | none => exact iff_of_true rfl (.inl (textCell_eq_none_iff.mp h))
  | some s =>
    refine iff_of_false (fun h ↦ nomatch h) ?_
    rintro (rfl | ⟨hkind, -⟩ | ⟨hkind, -⟩)
    · cases h
    · exact hkind rfl
    · cases hkind

theorem ofOption_int64_eq_null_iff {value : Option Int64} (h : cell.integerCell = .ok value) :
    ofOption .int64 value = .null ↔ cell.IsVacant .integer := by
  cases value with
  | none =>
    refine iff_of_true rfl ?_
    rcases integerCell_eq_none_iff.mp h with hnull | hblank
    · exact .inl hnull
    · exact .inr (.inl ⟨by decide, hblank⟩)
  | some i =>
    refine iff_of_false (fun h ↦ nomatch h) ?_
    rintro (hnull | ⟨-, hblank⟩ | ⟨hkind, -⟩)
    · cases h.symm.trans (integerCell_eq_none_iff.mpr (.inl hnull))
    · cases h.symm.trans (integerCell_eq_none_iff.mpr (.inr hblank))
    · cases hkind

theorem ofOption_binary64_eq_null_iff {value : Option Binary64} (h : cell.numberCell = .ok value) :
    ofOption .binary64 value = .null ↔ cell.IsVacant .number := by
  cases value with
  | none =>
    refine iff_of_true rfl ?_
    rcases numberCell_eq_none_iff.mp h with hnull | hblank
    · exact .inl hnull
    · exact .inr (.inl ⟨by decide, hblank⟩)
  | some x =>
    rw [ofOption, binary64_eq_null_iff]
    constructor
    · intro hinfinite
      exact .inr (.inr ⟨rfl, x, h, hinfinite⟩)
    · rintro (hnull | ⟨-, hblank⟩ | ⟨-, y, hy, hinfinite⟩)
      · cases h.symm.trans (numberCell_eq_none_iff.mpr (.inl hnull))
      · cases h.symm.trans (numberCell_eq_none_iff.mpr (.inr hblank))
      · cases h.symm.trans hy
        exact hinfinite

end Json

/-- The row has nothing to write in the first column of the name: it ends before the column, or its
cell there is vacant. -/
def Table.IsVacant (t : Table) (row : List Json) (column : String) (kind : CellKind) : Prop :=
  ∃ i, t.columnIndex? column = some i ∧
    (row.length ≤ i ∨ ∃ cell, row[i]? = some cell ∧ cell.IsVacant kind)

/-- A short row reads as null. -/
theorem Table.isVacant_iff {t : Table} {row : List Json} {column : String} {kind : CellKind} :
    t.IsVacant row column kind ↔
      ∃ cell, t.lookup? row column = some cell ∧ cell.IsVacant kind := by
  rw [IsVacant, lookup?]
  cases t.columnIndex? column with
  | none =>
    constructor
    · rintro ⟨_, h, -⟩
      cases h
    · rintro ⟨_, h, -⟩
      cases h
  | some i =>
    have hcell : (cellAt row i).IsVacant kind ↔
        row.length ≤ i ∨ ∃ cell, row[i]? = some cell ∧ cell.IsVacant kind := by
      rw [cellAt, ← List.getElem?_eq_none_iff]
      cases row[i]? with
      | none => exact iff_of_true (.inl rfl) (.inl rfl)
      | some cell => simp
    constructor
    · rintro ⟨_, hi, h⟩
      cases hi
      exact ⟨_, rfl, hcell.mpr h⟩
    · rintro ⟨_, hi, h⟩
      cases hi
      exact ⟨i, rfl, hcell.mp h⟩

/-! ## The keys -/

/-- The keys of the rows that come from a table with the given headers. -/
def StandingsRow.writtenKeys (headers : List String) : List String :=
  [teamIdColumn] ++ (standingsRenames.filter (·.1 ∈ headers)).map Prod.snd ++
    (if "TeamCity" ∈ headers ∧ "TeamName" ∈ headers then ["full_name"] else []) ++ ["team_id"]

section Field

variable {α : Type} {column : String} {index : Nat}
  {read : Json → Except CellRefusal (Option α)} {cell? : Option Json} {entry : Entry α}

theorem Entry.json?_ofCell (write : α → Json) (value : Option α) :
    (Entry.ofCell value).json? write = some (Json.ofOption write value) := by
  cases value <;> rfl

theorem readField_of_requireField {a : α} (h : requireField column index read cell? = .ok a) :
    readField column index read cell? = .ok (.value a) := by
  obtain ⟨cell, hcell, hread⟩ := requireField_eq_ok_iff.mp h
  exact readField_eq_ok_iff.mpr (.inr ⟨cell, some a, hcell, hread, rfl⟩)

private theorem map_fst_field {p : Prop} [Decidable p] (key : String) (write : α → Json)
    (h : entry ≠ .absent ↔ p) :
    (entry.field key write).map Prod.fst = if p then [key] else [] := by
  cases entry with
  | absent => exact (if_neg fun hp ↦ h.mpr hp rfl).symm
  | null => exact (if_pos (h.mp nofun)).symm
  | value a => exact (if_pos (h.mp nofun)).symm

/-- A null is written exactly for a vacant cell. -/
private theorem null_iff_of_readField {write : α → Json} {kind : CellKind} {json : Json}
    (hvacant : ∀ {cell value}, read cell = .ok value →
      (Json.ofOption write value = .null ↔ cell.IsVacant kind))
    (h : readField column index read cell? = .ok entry) (hjson : entry.json? write = some json) :
    json = .null ↔ ∃ cell, cell? = some cell ∧ cell.IsVacant kind := by
  obtain ⟨rfl, rfl⟩ | ⟨cell, value, rfl, hread, rfl⟩ := readField_eq_ok_iff.mp h
  · cases hjson
  · rw [Entry.json?_ofCell] at hjson
    cases hjson
    rw [hvacant hread]
    constructor
    · intro hcell
      exact ⟨cell, rfl, hcell⟩
    · rintro ⟨_, h, hcell⟩
      cases h
      exact hcell

end Field

namespace Table

theorem sourceCell?_of_mem_standingsRenames {t : Table} {rename : String × String}
    (h : rename ∈ standingsRenames) (row : List Json) :
    t.sourceCell? row rename.2 = t.lookup? row rename.1 := by
  have hwanted : ∀ rename ∈ standingsRenames,
      wantedColumn? rename.2 = some rename.1 ∧ rename.1 ≠ teamIdColumn := by decide
  obtain ⟨hcolumn, hne⟩ := hwanted rename h
  rw [sourceCell?, hcolumn, Option.bind_some, if_neg hne]

theorem sourceCell?_eq_none_iff {t : Table} {rename : String × String}
    (h : rename ∈ standingsRenames) (row : List Json) :
    t.sourceCell? row rename.2 = none ↔ rename.1 ∉ t.headers := by
  rw [sourceCell?_of_mem_standingsRenames h, lookup?_eq_none_iff]

end Table

namespace StandingsRow

variable {t : Table} {row : List Json} {index : Nat} {line : StandingsRow}

theorem eq_some_of_mem_fields {key : String} {json? : Option Json} {json : Json}
    (hslot : (key, json?) ∈ line.slots) (h : (key, json) ∈ line.fields) : json? = some json := by
  rw [fields_eq, filled, List.mem_flatMap] at h
  obtain ⟨slot, hmem, h⟩ := h
  obtain ⟨other, hother, hpair⟩ := List.mem_map.mp h
  cases hpair
  have hnodup : (line.slots.map Prod.fst).Nodup := nodup_keys
  have heq := List.inj_on_of_nodup_map hnodup hslot hmem rfl
  rw [show json? = slot.2 from congrArg Prod.snd heq]
  exact Option.mem_toList.mp hother

private theorem ne_absent_iff {α : Type} (source : String) {key : String}
    {read : Json → Except CellRefusal (Option α)} {entry : Entry α}
    (hrename : (source, key) ∈ standingsRenames)
    (h : readField key index read (t.sourceCell? row key) = .ok entry) :
    entry ≠ .absent ↔ source ∈ t.headers := by
  rw [← not_iff_not, not_not, ← Table.sourceCell?_eq_none_iff hrename row]
  obtain ⟨hcell, rfl⟩ | ⟨cell, value, hcell, -, rfl⟩ := readField_eq_ok_iff.mp h
  · exact iff_of_true rfl hcell
  · refine iff_of_false ?_ (hcell ▸ Option.some_ne_none cell)
    cases value <;> exact nofun

private theorem fullName_ne_absent_iff {city name : Entry String} :
    LeagueStandings.fullName city name ≠ .absent ↔ city ≠ .absent ∧ name ≠ .absent := by
  cases city <;> cases name <;> simp [LeagueStandings.fullName]

private theorem map_filter_eq_flatMap (headers : List String) (renames : List (String × String)) :
    (renames.filter (·.1 ∈ headers)).map Prod.snd =
      renames.flatMap fun rename ↦ if rename.1 ∈ headers then [rename.2] else [] := by
  induction renames with
  | nil => rfl
  | cons rename renames ih =>
    rw [List.filter_cons, List.flatMap_cons, ← ih]
    by_cases h : rename.1 ∈ headers <;> simp [h]

/-- **The keys of a row** are those of its table. -/
theorem map_fst_fields (h : line.ReadsFrom (t.sourceCell? row) index) :
    line.fields.map Prod.fst = writtenKeys t.headers := by
  have hcity := ne_absent_iff "TeamCity" (by decide) h.city
  have hname := ne_absent_iff "TeamName" (by decide) h.name
  have hconference := ne_absent_iff "Conference" (by decide) h.conference
  have hdivision := ne_absent_iff "Division" (by decide) h.division
  have hwins := ne_absent_iff "WINS" (by decide) h.wins
  have hlosses := ne_absent_iff "LOSSES" (by decide) h.losses
  have hwinPct := ne_absent_iff "WinPCT" (by decide) h.winPct
  have hopponent := ne_absent_iff "OppPointsPG" (by decide) h.opponentPoints
  have hdifference := ne_absent_iff "DiffPointsPG" (by decide) h.pointsDifference
  have hfullName : line.fullName ≠ .absent ↔ "TeamCity" ∈ t.headers ∧ "TeamName" ∈ t.headers := by
    rw [h.fullName, fullName_ne_absent_iff, hcity, hname]
  -- The points are required, so their column is there.
  have hpoints : "PointsPG" ∈ t.headers :=
    (ne_absent_iff "PointsPG" (by decide) (readField_of_requireField h.points)).mp nofun
  rw [fields, writtenKeys, map_filter_eq_flatMap]
  simp only [standingsRenames, List.flatMap_cons, List.flatMap_nil, List.append_nil,
    List.map_append, List.map_cons, List.map_nil, if_pos hpoints, List.append_assoc,
    map_fst_field _ _ hcity, map_fst_field _ _ hname, map_fst_field _ _ hconference,
    map_fst_field _ _ hdivision, map_fst_field _ _ hwins, map_fst_field _ _ hlosses,
    map_fst_field _ _ hwinPct, map_fst_field _ _ hopponent, map_fst_field _ _ hdifference,
    map_fst_field _ _ hfullName]
  rfl

theorem writtenKeys_eq_keys {headers : List String}
    (h : ∀ rename ∈ standingsRenames, rename.1 ∈ headers) : writtenKeys headers = keys := by
  have hall : standingsRenames.filter (·.1 ∈ headers) = standingsRenames :=
    List.filter_eq_self.mpr fun rename hr ↦ decide_eq_true (h rename hr)
  have hboth : "TeamCity" ∈ headers ∧ "TeamName" ∈ headers :=
    ⟨h ("TeamCity", "team_city") (by decide), h ("TeamName", "team_name") (by decide)⟩
  rw [writtenKeys, hall, if_pos hboth]
  rfl

/-! ## The nulls -/

/-- The fields of a line that a row of the table was made into: their keys come from the headers,
and their nulls from vacant cells. -/
structure FieldsFrom (t : Table) (row : List Json) (fields : List (String × Json)) : Prop where
  keys : fields.map Prod.fst = writtenKeys t.headers
  /-- Under the name of a column there is a null exactly if the row has nothing to write in it. -/
  columns : ∀ rename ∈ standingsRenames, ∀ value, (rename.2, value) ∈ fields →
    (value = .null ↔ t.IsVacant row rename.1 (columnKind rename.2))
  /-- The full name is null exactly if a part of it is. -/
  fullName : ∀ value, ("full_name", value) ∈ fields →
    (value = .null ↔ t.IsVacant row "TeamCity" .text ∨ t.IsVacant row "TeamName" .text)
  /-- The identifier is not null, and neither is its cell vacant. -/
  identifier : ∀ key ∈ [teamIdColumn, "team_id"], ∀ value, (key, value) ∈ fields →
    value ≠ .null ∧ ∀ cell, t.identifierCell? row = some cell → ¬ cell.IsVacant .integer

private theorem null_iff_isVacant {α : Type} (source : String) {key : String}
    {read : Json → Except CellRefusal (Option α)} {entry : Entry α} {write : α → Json}
    {kind : CellKind} {json : Json} (hrename : (source, key) ∈ standingsRenames)
    (hvacant : ∀ {cell value}, read cell = .ok value →
      (Json.ofOption write value = .null ↔ cell.IsVacant kind))
    (hread : readField key index read (t.sourceCell? row key) = .ok entry)
    (hjson : entry.json? write = some json) :
    json = .null ↔ t.IsVacant row source kind := by
  have hsource : t.sourceCell? row key = t.lookup? row source :=
    Table.sourceCell?_of_mem_standingsRenames hrename row
  rw [Table.isVacant_iff, ← hsource]
  exact null_iff_of_readField hvacant hread hjson

private theorem columns_null_iff (h : line.ReadsFrom (t.sourceCell? row) index) :
    ∀ rename ∈ standingsRenames, ∀ value, (rename.2, value) ∈ line.fields →
      (value = .null ↔ t.IsVacant row rename.1 (columnKind rename.2)) := by
  intro rename hrename value hvalue
  simp only [standingsRenames, List.mem_cons, List.not_mem_nil, or_false] at hrename
  rcases hrename with rfl | rfl | rfl | rfl | rfl | rfl | rfl | rfl | rfl | rfl
  · exact null_iff_isVacant "TeamCity" (by decide) Json.ofOption_str_eq_null_iff h.city
      (eq_some_of_mem_fields (by simp [slots]) hvalue)
  · exact null_iff_isVacant "TeamName" (by decide) Json.ofOption_str_eq_null_iff h.name
      (eq_some_of_mem_fields (by simp [slots]) hvalue)
  · exact null_iff_isVacant "Conference" (by decide) Json.ofOption_str_eq_null_iff h.conference
      (eq_some_of_mem_fields (by simp [slots]) hvalue)
  · exact null_iff_isVacant "Division" (by decide) Json.ofOption_str_eq_null_iff h.division
      (eq_some_of_mem_fields (by simp [slots]) hvalue)
  · exact null_iff_isVacant "WINS" (by decide) Json.ofOption_int64_eq_null_iff h.wins
      (eq_some_of_mem_fields (by simp [slots]) hvalue)
  · exact null_iff_isVacant "LOSSES" (by decide) Json.ofOption_int64_eq_null_iff h.losses
      (eq_some_of_mem_fields (by simp [slots]) hvalue)
  · exact null_iff_isVacant "WinPCT" (by decide) Json.ofOption_binary64_eq_null_iff h.winPct
      (eq_some_of_mem_fields (by simp [slots]) hvalue)
  · exact null_iff_isVacant "PointsPG" (by decide) Json.ofOption_binary64_eq_null_iff
      (readField_of_requireField h.points)
      (eq_some_of_mem_fields (by simp [slots, Entry.json?, pointsColumn]) hvalue)
  · exact null_iff_isVacant "OppPointsPG" (by decide) Json.ofOption_binary64_eq_null_iff
      h.opponentPoints (eq_some_of_mem_fields (by simp [slots]) hvalue)
  · exact null_iff_isVacant "DiffPointsPG" (by decide) Json.ofOption_binary64_eq_null_iff
      h.pointsDifference (eq_some_of_mem_fields (by simp [slots]) hvalue)

private theorem isVacant_iff_eq_null (source : String) {key : String} {entry : Entry String}
    (hrename : (source, key) ∈ standingsRenames)
    (hread : readField key index Json.textCell (t.sourceCell? row key) = .ok entry)
    (hne : entry ≠ .absent) : t.IsVacant row source .text ↔ entry = .null := by
  cases entry with
  | absent => exact absurd rfl hne
  | null =>
    have hnull : Json.null = .null ↔ t.IsVacant row source .text :=
      null_iff_isVacant source hrename Json.ofOption_str_eq_null_iff hread rfl
    exact iff_of_true (hnull.mp rfl) rfl
  | value text =>
    have hnull := null_iff_isVacant source hrename Json.ofOption_str_eq_null_iff hread rfl
    exact iff_of_false (fun h ↦ nomatch hnull.mpr h) nofun

/-- A full name that is written has both its parts, and is null if one of them is. -/
private theorem eq_null_iff_of_fullName {city name : Entry String} {json : Json}
    (h : (LeagueStandings.fullName city name).json? .str = some json) :
    city ≠ .absent ∧ name ≠ .absent ∧ (json = .null ↔ city = .null ∨ name = .null) := by
  cases city with
  | absent => cases h
  | null => cases name <;> cases h <;> simp
  | value city => cases name <;> cases h <;> simp

private theorem fullName_null_iff (h : line.ReadsFrom (t.sourceCell? row) index) (value : Json)
    (hvalue : ("full_name", value) ∈ line.fields) :
    value = .null ↔ t.IsVacant row "TeamCity" .text ∨ t.IsVacant row "TeamName" .text := by
  have hjson : line.fullName.json? .str = some value :=
    eq_some_of_mem_fields (by simp [slots]) hvalue
  rw [h.fullName] at hjson
  obtain ⟨hcity, hname, hnull⟩ := eq_null_iff_of_fullName hjson
  rw [isVacant_iff_eq_null "TeamCity" (by decide) h.city hcity,
    isVacant_iff_eq_null "TeamName" (by decide) h.name hname]
  exact hnull

private theorem identifier_ne_null (h : line.ReadsFrom (t.sourceCell? row) index) :
    ∀ key ∈ [teamIdColumn, "team_id"], ∀ value, (key, value) ∈ line.fields →
      value ≠ .null ∧ ∀ cell, t.identifierCell? row = some cell → ¬ cell.IsVacant .integer := by
  intro key hkey value hvalue
  obtain ⟨cell, hcell, hread⟩ := requireField_eq_ok_iff.mp h.sourceTeamId
  rw [Table.sourceCell?_teamIdColumn] at hcell
  have hslot : ∃ id, (key, some (Json.int64 id)) ∈ line.slots := by
    simp only [List.mem_cons, List.not_mem_nil, or_false] at hkey
    rcases hkey with rfl | rfl
    · exact ⟨line.sourceTeamId, by simp [slots, teamIdColumn]⟩
    · exact ⟨line.teamId, by simp [slots]⟩
  obtain ⟨id, hslot⟩ := hslot
  cases eq_some_of_mem_fields hslot hvalue
  constructor
  · intro hnull
    cases hnull
  · intro other hother hvacant
    cases hcell.symm.trans hother
    cases (Json.ofOption_int64_eq_null_iff hread).mpr hvacant

theorem fieldsFrom_of_readsFrom (h : line.ReadsFrom (t.sourceCell? row) index) :
    FieldsFrom t row line.fields :=
  ⟨map_fst_fields h, columns_null_iff h, fullName_null_iff h, identifier_ne_null h⟩

end StandingsRow

namespace Normalizer

/-- **One schema.** The lines that a normalizer makes of a table are one for each retained row, in
their order, and they are all written as records with the keys that the headers of the table say, in
that order; a strict normalizer lets pass only headers that say all thirteen. What is in the cells
decides only where the nulls are: under the keys of vacant cells. -/
theorem fields_of_normalize {n : Normalizer} {t : Table} {lines : List StandingsRow}
    (h : n.normalize t = .ok lines) :
    List.Forall₂ (fun row line ↦ ∃ fields, line.toJson = .obj fields ∧
      StandingsRow.FieldsFrom t row fields) (n.retained t) lines ∧
    (n.strict = true → StandingsRow.writtenKeys t.headers = StandingsRow.keys) := by
  obtain ⟨hreaches, -, hlines⟩ := normalize_eq_ok_iff.mp h
  constructor
  · have hfields : List.Forall₂ (fun row line ↦ ∃ fields, line.toJson = .obj fields ∧
        StandingsRow.FieldsFrom t row fields) ((n.retained t).zipIdx.map Prod.fst) lines := by
      refine List.forall₂_map_left_iff.mpr (hlines.imp fun row line hreads ↦ ?_)
      exact ⟨line.fields, rfl, StandingsRow.fieldsFrom_of_readsFrom hreads⟩
    rwa [List.zipIdx_map_fst] at hfields
  · intro hstrict
    have habsent : t.absentColumns = [] := by
      by_contra hmissing
      exact hreaches.notMissing ⟨hstrict, hmissing⟩
    have hwanted : ∀ rename ∈ standingsRenames, rename.1 ∈ standingsColumns.tail := by decide
    exact StandingsRow.writtenKeys_eq_keys fun rename hrename ↦
      Table.missing_eq_nil_iff.mp habsent rename.1 (hwanted rename hrename)

/-- A table whose only row has a null for its city and ends before its name and its wins. -/
def shortRow : Table :=
  ⟨"Standings", ["TeamID", "PointsPG", "TeamCity", "TeamName", "WINS"],
    [[.int64 1, .int64 100, .null]]⟩

/-- Its line has keys for all of them. -/
theorem fields_of_normalize_shortRow : ∃ lines, ({} : Normalizer).normalize shortRow = .ok lines ∧
    lines.length = 1 ∧ ∀ line ∈ lines, ∃ fields, line.toJson = .obj fields ∧
      fields.map Prod.fst = ["TEAM_ID", "team_city", "team_name", "wins", "points_per_game",
        "full_name", "team_id"] := by
  have hok : (({} : Normalizer).normalize shortRow).isOk = true := by decide +kernel
  obtain ⟨lines, hlines⟩ := exists_of_isOk hok
  obtain ⟨hfields, -⟩ := fields_of_normalize hlines
  have hretained : (({} : Normalizer).retained shortRow).length = 1 := by decide +kernel
  refine ⟨lines, hlines, hfields.length_eq ▸ hretained, fun line hline ↦ ?_⟩
  obtain ⟨row, -, fields, hjson, hfrom⟩ := exists_of_mem_forall₂ hfields hline
  exact ⟨fields, hjson, hfrom.keys.trans (by decide)⟩

end Normalizer

end LeagueStandings
