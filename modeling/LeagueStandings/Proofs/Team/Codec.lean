import LeagueStandings.Proofs.Standings.Codec
import LeagueStandings.Team

/-!
# The team list reads back

A team list is read as exactly the records that were written (`decode?_fileBytes`): a record has no
optional fields, so nothing is lost.

A standings file is no team list. Its rows have none of the keys of a record, so it is refused
unless it has no rows at all (`decode?_standings`).
-/

namespace LeagueStandings.TeamRecord

open JsonTree

/-- The bytes of a team list. -/
def fileBytes (records : List TeamRecord) : List UInt8 := Utf8.encode (listToJson records).pretty

/-- The fields of a written record. -/
def fields (record : TeamRecord) : List (String × Json) :=
  [("id", .int64 record.id), ("abbreviation", .str record.abbreviation),
    ("city", .str record.city), ("name", .str record.name)]

/-- The fields of a record as they are found in a file. -/
def written (record : TeamRecord) : List (String × JsonTree) :=
  record.fields.map fun field ↦ (field.1, field.2.tree)

theorem decoder?_toJson (record : TeamRecord) (depth : Nat) :
    decoder? (depth + 1) record.toJson.tree = some record := by
  have hkeys : (record.fields.map Prod.fst).Sublist keys := List.Sublist.refl _
  have hid : required? int64? depth record.written "id" = some record.id :=
    reads_int64?.required? rfl
  have habbreviation : required? string? depth record.written "abbreviation" =
      some record.abbreviation := reads_string?.required? rfl
  have hcity : required? string? depth record.written "city" = some record.city :=
    reads_string?.required? rfl
  have hname : required? string? depth record.written "name" = some record.name :=
    reads_string?.required? rfl
  rw [decoder?, show record.toJson = .obj record.fields from rfl,
    record?_obj _ _ hkeys (by decide), ← written]
  simp only [hid, habbreviation, hcity, hname, Option.bind_eq_bind, Option.bind_some]
  rfl

/-- **Reading a team list** that was written gives its records. -/
theorem decode?_fileBytes (records : List TeamRecord) :
    decode? listDecoder? (fileBytes records) = some records := by
  rw [decode?, fileBytes, Json.ofBytes?_pretty, Option.bind_some, listToJson, listDecoder?,
    depthLimit, list?_arr, List.mapM_map]
  simp only [Function.comp_def, decoder?_toJson]
  exact List.mapM_pure.trans (congrArg some (List.map_id records))

/-! ## Standings in place of a team list -/

/-- A row of the standings is no record, since it has no identifier under the key of a record. -/
private theorem decoder?_row (row : StandingsRow) (depth : Nat) :
    decoder? (depth + 1) row.toJson.tree = none := by
  have hdisjoint : ∀ key ∈ StandingsRow.keys, key ∉ keys := by decide
  have hfields : ∀ field ∈ row.fields, field.1 ∉ keys := fun field hfield ↦
    hdisjoint field.1 (row.sublist_keys.subset (List.mem_map_of_mem hfield))
  rw [decoder?, StandingsRow.toJson, record?, fields?_obj_of_disjoint hfields]
  rfl

theorem decode?_standings (rows : List StandingsRow) :
    decode? listDecoder? (StandingsRow.fileBytes rows) = if rows = [] then some [] else none := by
  rw [decode?, StandingsRow.fileBytes, Json.ofBytes?_pretty, Option.bind_some,
    StandingsRow.listToJson, listDecoder?, depthLimit, list?_arr, List.mapM_map]
  cases rows with
  | nil => rfl
  | cons row rows =>
    rw [List.mapM_cons, Function.comp_apply, decoder?_row, if_neg (List.cons_ne_nil row rows)]
    rfl

end LeagueStandings.TeamRecord
