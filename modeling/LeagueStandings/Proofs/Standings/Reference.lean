import LeagueStandings.Proofs.Standings.Outcomes

/-!
# Reading by name only

A table whose headers name `TEAM_ID` at most once can be normalized without being changed. Each
column of the rows is read from one column of the input table (`sourceColumn?`), which is looked up
by its name in every row as it stands. Nothing is renamed, dropped or projected.

`FollowsReference` says in full what this comes to, and `followsReference` that the stages of a
normalizer come to the same.

## Why the bound

Two columns named `TEAM_ID` in front of the alias are the one case in which the stages read another
column than the named one. `AliasLeads` excludes exactly that, and a table that names `TEAM_ID`
once has it.
-/

namespace LeagueStandings

namespace Table

/-- The column that identifies a team: the alias, if the table has it. -/
def identifierColumn (t : Table) : String :=
  if teamIdAlias ∈ t.headers then teamIdAlias else teamIdColumn

/-- The column of the table that a column of the rows is read from. -/
def sourceColumn? (t : Table) (column : String) : Option String :=
  if column = teamIdColumn then some t.identifierColumn
  else (standingsRenames.find? (·.2 == column)).map Prod.fst

/-- The cell of a row that a column of the rows is read from, found by its name. -/
def namedCell? (t : Table) (row : List Json) (column : String) : Option Json :=
  (t.sourceColumn? column).bind (t.lookup? row)

theorem wantedColumn?_eq (column : String) :
    wantedColumn? column =
      if column = teamIdColumn then some teamIdColumn
      else (standingsRenames.find? (·.2 == column)).map Prod.fst := by
  have hpairs : standingsColumns.map (fun wanted ↦ (wanted, renamed standingsRenames wanted)) =
      (teamIdColumn, teamIdColumn) :: standingsRenames := by decide
  have hfind : wantedColumn? column =
      (((teamIdColumn, teamIdColumn) :: standingsRenames).find? (·.2 == column)).map Prod.fst := by
    rw [← hpairs, List.find?_map, Option.map_map]
    exact Option.map_id'.symm
  rw [hfind, List.find?_cons]
  by_cases h : column = teamIdColumn
  · rw [if_pos h, h, beq_self_eq_true]
    rfl
  · rw [if_neg h, beq_eq_false_iff_ne.mpr (Ne.symm h)]

theorem sourceCell?_eq_namedCell? {t : Table} (h : teamIdAlias ∈ t.headers → t.AliasLeads) :
    t.sourceCell? = t.namedCell? := by
  have hid : ∀ row, t.identifierCell? row = t.lookup? row t.identifierColumn := by
    intro row
    rw [identifierCell?, identifierColumn]
    split
    · next ha => rw [if_pos (h ha)]
    · rfl
  have hother : ∀ rename ∈ standingsRenames, rename.1 ≠ teamIdColumn := by decide
  funext row column
  rw [sourceCell?, namedCell?, sourceColumn?, wantedColumn?_eq]
  split
  · rw [Option.bind_some, Option.bind_some, if_pos rfl, hid]
  · cases hf : standingsRenames.find? (·.2 == column) with
    | none => rfl
    | some rename => exact if_neg (hother rename (List.mem_of_find?_eq_some hf))

end Table

namespace Normalizer

/-- Normalizing the table gives what reading it by name gives. -/
structure FollowsReference (n : Normalizer) (t : Table) : Prop where
  /-- The whole run, as one equation. -/
  eq_rowByRow : n.normalize t = n.rowByRow t t.namedCell?
  /-- The table is refused for its identifier exactly if neither spelling is a header. -/
  unidentified : (∃ name headers, n.normalize t = .error (.unidentified name headers)) ↔
    teamIdAlias ∉ t.headers ∧ teamIdColumn ∉ t.headers
  /-- Strictness refuses exactly the tables that lack one of the other wanted columns, and names
  all of those in their order. -/
  missing : t.HasIdentifier → n.strict = true →
    ∀ columns, n.normalize t = .error (.missingColumns columns) ↔
      columns = t.absentColumns ∧ t.absentColumns ≠ []
  /-- Its words list these columns with commas between them. -/
  missingWords : t.HasIdentifier → n.strict = true → t.absentColumns ≠ [] →
    (n.normalize t).mapError Failure.message =
      .error ("Missing required column: " ++ ", ".intercalate t.absentColumns)
  /-- After that only the column of points is indispensable. -/
  pointless : t.HasIdentifier → ¬ (n.strict = true ∧ t.absentColumns ≠ []) →
    ∀ columns, n.normalize t = .error (.missingColumns columns) ↔
      columns = [pointsColumn] ∧ "PointsPG" ∉ t.headers
  /-- The points that cannot be read are refused in the first row that has such. -/
  points : n.ReachesRows t → ∀ index cause,
    n.normalize t = .error (.invalidCell pointsColumn index cause) ↔
      ∃ row refusal, t.rows[index]? = some row ∧ t.points row = .error refusal ∧
        cause = .refused refusal ∧
        ∀ i < index, ∀ other, t.rows[i]? = some other → ∃ points, t.points other = .ok points
  /-- Otherwise each retained row is read, in order. -/
  rows : n.ReachesRows t → (∀ row ∈ t.rows, ∃ points, t.points row = .ok points) →
    n.normalize t = (n.retained t).zipIdx.mapM fun row ↦
      StandingsRow.ofCells (t.namedCell? row.1) row.2

variable {n : Normalizer} {t : Table}

private theorem normalize_unidentified_iff :
    (∃ name headers, n.normalize t = .error (.unidentified name headers)) ↔
      teamIdAlias ∉ t.headers ∧ teamIdColumn ∉ t.headers := by
  rw [← not_or]
  constructor
  · rintro ⟨name, headers, h⟩
    cases fails_of_normalize_eq_error h with
    | unidentified hid => exact hid
  · intro hid
    refine ⟨t.name, t.headers, ?_⟩
    rw [normalize_eq, rowByRow, if_pos (show ¬ t.HasIdentifier from hid)]

private theorem normalize_missing_iff (hid : t.HasIdentifier) (hstrict : n.strict = true)
    (columns : List String) :
    n.normalize t = .error (.missingColumns columns) ↔
      columns = t.absentColumns ∧ t.absentColumns ≠ [] := by
  constructor
  · intro h
    cases fails_of_normalize_eq_error h with
    | missing _ hmissing => exact ⟨rfl, hmissing.2⟩
    | pointless _ hmissing hpoints =>
      have habsent : "PointsPG" ∈ t.absentColumns :=
        Table.mem_missing.mpr ⟨by decide, hpoints⟩
      exact absurd ⟨hstrict, List.ne_nil_of_mem habsent⟩ hmissing
  · rintro ⟨rfl, hmissing⟩
    rw [normalize_eq, rowByRow, if_neg (not_not_intro hid), if_pos ⟨hstrict, hmissing⟩]

private theorem normalize_missing_message (hid : t.HasIdentifier) (hstrict : n.strict = true)
    (habsent : t.absentColumns ≠ []) :
    (n.normalize t).mapError Failure.message =
      .error ("Missing required column: " ++ ", ".intercalate t.absentColumns) := by
  rw [(normalize_missing_iff hid hstrict t.absentColumns).mpr ⟨rfl, habsent⟩]
  rfl

private theorem normalize_pointless_iff (hid : t.HasIdentifier)
    (hmissing : ¬ (n.strict = true ∧ t.absentColumns ≠ [])) (columns : List String) :
    n.normalize t = .error (.missingColumns columns) ↔
      columns = [pointsColumn] ∧ "PointsPG" ∉ t.headers := by
  constructor
  · intro h
    cases fails_of_normalize_eq_error h with
    | missing _ hboth => exact absurd hboth hmissing
    | pointless _ _ hpoints => exact ⟨rfl, hpoints⟩
  · rintro ⟨rfl, hpoints⟩
    rw [normalize_eq, rowByRow, if_neg (not_not_intro hid), if_neg hmissing, if_pos hpoints]

private theorem normalize_points_iff (hreaches : n.ReachesRows t) (index : Nat)
    (cause : CellFault) :
    n.normalize t = .error (.invalidCell pointsColumn index cause) ↔
      ∃ row refusal, t.rows[index]? = some row ∧ t.points row = .error refusal ∧
        cause = .refused refusal ∧
        ∀ i < index, ∀ other, t.rows[i]? = some other →
          ∃ points, t.points other = .ok points := by
  constructor
  · intro h
    cases fails_of_normalize_eq_error h with
    | points _ hrow hrefusal hbefore => exact ⟨_, _, hrow, hrefusal, rfl, hbefore⟩
    | cell _ _ _ hne => exact absurd rfl hne
  · rintro ⟨row, refusal, hrow, hrefusal, rfl, hbefore⟩
    rw [normalize_eq, rowByRow_of_reachesRows hreaches]
    refine bind_eq_error_iff.mpr (.inl ?_)
    refine (mapM_zipIdx_eq_error_iff (f := fun row ↦ checkPoints (t.points row))).mpr
      ⟨index, row, hrow, checkPoints_eq_error_iff.mpr ⟨refusal, hrefusal, rfl⟩, ?_⟩
    exact fun i hi other ho ↦ exists_checkPoints_eq_ok_iff.mpr (hbefore i hi other ho)

/-- **Normalizing follows the reference.** On a table that names the identifier column at most once,
with rows of any length and any other headers, a normalizer gives what reading by name gives. -/
theorem followsReference (n : Normalizer) (t : Table) (h : t.headers.count teamIdColumn ≤ 1) :
    n.FollowsReference t := by
  have hnamed : n.normalize t = n.rowByRow t t.namedCell? := by
    rw [normalize_eq, Table.sourceCell?_eq_namedCell? fun _ ↦ Table.aliasLeads_of_count_le_one h]
  refine ⟨hnamed, normalize_unidentified_iff, normalize_missing_iff, normalize_missing_message,
    normalize_pointless_iff, normalize_points_iff, fun hreaches hpoints ↦ ?_⟩
  obtain ⟨values, hvalues⟩ := exists_mapM_checkPoints_eq_ok_iff.mpr hpoints
  rw [hnamed, rowByRow_of_reachesRows hreaches, hvalues, ok_bind]

/-- A ragged table with both spellings of the identifier follows the reference. -/
theorem followsReference_of_both_spellings :
    (⟨true, .usual⟩ : Normalizer).FollowsReference
      ⟨"Standings", ["PointsPG", "TEAM_ID", "TeamID", "WINS"],
        [[.str "100", .str "7"], [.null], []]⟩ :=
  followsReference _ _ (by decide)

end Normalizer

end LeagueStandings
