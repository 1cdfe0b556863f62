import LeagueStandings.Proofs.Table.Columns
import LeagueStandings.Standings.Normalizer

/-!
# The identifier column

A standings table may spell its identifier column in two ways, and the alias is meant to win.
Reconciling the spellings drops one column of the target name and relabels one column of the alias,
the first of each. With one column of either spelling that settles the matter. With repeated
headers it does not: what is left of the target name may stand before the relabelled column, and
then the first column under the target name is not the alias.

`identifierCell?` says which cell is read in every case, and `lookup?_identified` that it is the
one.
-/

namespace LeagueStandings.Table

theorem teamIdAlias_ne_teamIdColumn : teamIdAlias ≠ teamIdColumn := by decide

/-- At most one column of the target name stands before the first column of the alias. -/
def AliasLeads (t : Table) : Prop :=
  (t.headers.takeWhile (· != teamIdAlias)).count teamIdColumn ≤ 1

instance (t : Table) : Decidable t.AliasLeads :=
  inferInstanceAs (Decidable ((t.headers.takeWhile (· != teamIdAlias)).count teamIdColumn ≤ 1))

theorem aliasLeads_of_count_le_one {t : Table} (h : t.headers.count teamIdColumn ≤ 1) :
    t.AliasLeads :=
  Nat.le_trans ((List.takeWhile_sublist _).count_le teamIdColumn) h

/-- The cell that a row's identifier is read from, if there is one. -/
def identifierCell? (t : Table) (row : List Json) : Option Json :=
  if teamIdAlias ∈ t.headers then
    if t.AliasLeads then t.lookup? row teamIdAlias else t.lookupSecond? row teamIdColumn
  else t.lookup? row teamIdColumn

/-- The table with its identifier column under one name, where it has one. -/
def identified (t : Table) : Table :=
  if teamIdAlias ∈ t.headers then t.renameColumn teamIdAlias teamIdColumn else t

/-- A row of the table with its identifier column under one name. -/
def identifiedRow (t : Table) (row : List Json) : List Json :=
  if teamIdAlias ∈ t.headers then t.dropCell teamIdColumn row else row

/-- The table has a column under either spelling. -/
def HasIdentifier (t : Table) : Prop := teamIdAlias ∈ t.headers ∨ teamIdColumn ∈ t.headers

instance (t : Table) : Decidable t.HasIdentifier :=
  inferInstanceAs (Decidable (teamIdAlias ∈ t.headers ∨ teamIdColumn ∈ t.headers))

variable {t : Table}

theorem withIdentifier_eq (t : Table) :
    t.withIdentifier =
      if t.HasIdentifier then .ok t.identified else .error (.unidentified t.name t.headers) := by
  rw [withIdentifier, identified]
  by_cases ha : teamIdAlias ∈ t.headers
  · rw [if_pos (hasColumn_iff.mpr ha), if_pos ha,
      if_pos (show t.HasIdentifier from Or.inl ha)]
  · rw [if_neg (mt hasColumn_iff.mp ha), if_neg ha]
    by_cases hc : teamIdColumn ∈ t.headers
    · rw [if_pos (hasColumn_iff.mpr hc), if_pos (show t.HasIdentifier from Or.inr hc)]
    · rw [if_neg (mt hasColumn_iff.mp hc),
        if_neg (show ¬ t.HasIdentifier from not_or.mpr ⟨ha, hc⟩)]

/-! ## Headers -/

private theorem renameColumn_alias (h : teamIdAlias ∈ t.headers) :
    t.renameColumn teamIdAlias teamIdColumn =
      (t.withoutColumn teamIdColumn).relabel teamIdAlias teamIdColumn := by
  rw [renameColumn, if_pos (hasColumn_iff.mpr h), if_neg teamIdAlias_ne_teamIdColumn]

theorem headers_identified (h : teamIdAlias ∈ t.headers) :
    t.identified.headers =
      (t.headers.erase teamIdColumn).replace teamIdAlias teamIdColumn := by
  rw [identified, if_pos h, renameColumn_alias h, headers_relabel, headers_withoutColumn]

private theorem alias_mem_erase (h : teamIdAlias ∈ t.headers) :
    teamIdAlias ∈ t.headers.erase teamIdColumn :=
  (List.mem_erase_of_ne teamIdAlias_ne_teamIdColumn).mpr h

/-- One column of the target name is exchanged for one of the alias. -/
theorem count_teamIdColumn_identified (h : teamIdAlias ∈ t.headers) :
    t.identified.headers.count teamIdColumn = t.headers.count teamIdColumn - 1 + 1 := by
  rw [headers_identified h, List.count_replace,
    if_pos (List.contains_iff_mem.mpr (alias_mem_erase h)), List.count_erase_self,
    if_pos (beq_self_eq_true _), if_neg (by simpa using teamIdAlias_ne_teamIdColumn),
    Nat.sub_zero]

theorem count_teamIdAlias_identified (h : teamIdAlias ∈ t.headers) :
    t.identified.headers.count teamIdAlias = t.headers.count teamIdAlias - 1 := by
  have hne : ¬ (teamIdColumn == teamIdAlias) = true := by
    simpa using teamIdAlias_ne_teamIdColumn.symm
  rw [headers_identified h, List.count_replace,
    if_pos (List.contains_iff_mem.mpr (alias_mem_erase h)),
    List.count_erase_of_ne teamIdAlias_ne_teamIdColumn, if_pos (beq_self_eq_true _), if_neg hne,
    Nat.add_zero]

/-! ## Rows -/

theorem rows_identified (t : Table) : t.identified.rows = t.rows.map t.identifiedRow := by
  have hrow : t.identifiedRow =
      if teamIdAlias ∈ t.headers then t.dropCell teamIdColumn else id := by
    funext row
    rw [identifiedRow]
    split <;> rfl
  rw [identified, hrow]
  split
  · next h => rw [renameColumn_alias h, rows_relabel, rows_withoutColumn]
  · exact (List.map_id _).symm

theorem lookup?_identified_of_ne {column : String} (ha : column ≠ teamIdAlias)
    (hc : column ≠ teamIdColumn) (row : List Json) :
    t.identified.lookup? (t.identifiedRow row) column = t.lookup? row column := by
  rw [identified, identifiedRow]
  split
  · next h =>
    rw [renameColumn_alias h, lookup?_relabel ha.symm]
    have hp : ∀ header ∈ (t.withoutColumn teamIdColumn).headers,
        (header == column || (header == teamIdAlias && teamIdColumn == column)) =
          (header == column) := by
      intro header _
      rw [beq_eq_false_iff_ne.mpr hc.symm, Bool.and_false, Bool.or_false]
    rw [cellWhere?_congr hp]
    exact lookup?_withoutColumn hc row
  · rfl

private theorem takeWhile_erase {a : String} {p : String → Bool} (h : p a = true)
    (headers : List String) :
    (headers.erase a).takeWhile p = (headers.takeWhile p).erase a := by
  induction headers with
  | nil => rfl
  | cons header headers ih =>
    by_cases ha : header = a
    · subst ha
      rw [List.erase_cons_head, List.takeWhile_cons, if_pos h, List.erase_cons_head]
    · have hb : ¬ (header == a) = true := by simpa using ha
      rw [List.erase_cons_tail hb, List.takeWhile_cons, List.takeWhile_cons]
      split
      · rw [List.erase_cons_tail hb, ih]
      · rfl

/-- What is left of the target name stands before the first column of the alias exactly if the
alias does not lead. -/
private theorem any_takeWhile_erase_iff :
    ((t.headers.erase teamIdColumn).takeWhile fun header ↦ !header == teamIdAlias).any
      (· == teamIdColumn) = true ↔ ¬ t.AliasLeads := by
  have hp : (!teamIdColumn == teamIdAlias) = true :=
    bne_iff_ne.mpr teamIdAlias_ne_teamIdColumn.symm
  let before := t.headers.takeWhile fun header ↦ !header == teamIdAlias
  have hleads : ¬ t.AliasLeads ↔ 1 < before.count teamIdColumn := Nat.not_le
  have hcount : (before.erase teamIdColumn).count teamIdColumn = before.count teamIdColumn - 1 :=
    List.count_erase_self
  rw [takeWhile_erase (p := fun header ↦ !header == teamIdAlias) hp, hleads, List.any_eq_true]
  constructor
  · rintro ⟨header, hmem, heq⟩
    rw [eq_of_beq heq] at hmem
    have hpos : 0 < (before.erase teamIdColumn).count teamIdColumn := List.count_pos_iff.mpr hmem
    omega
  · intro hlt
    have hpos : 0 < (before.erase teamIdColumn).count teamIdColumn := by omega
    exact ⟨teamIdColumn, List.count_pos_iff.mp hpos, beq_self_eq_true _⟩

/-- **The identifier that is read.** Under the one name the rows show `identifierCell?`. -/
theorem lookup?_identified (t : Table) (row : List Json) :
    t.identified.lookup? (t.identifiedRow row) teamIdColumn = t.identifierCell? row := by
  rw [identified, identifiedRow, identifierCell?]
  by_cases h : teamIdAlias ∈ t.headers
  · rw [if_pos h, if_pos h, if_pos h, renameColumn_alias h,
      lookup?_relabel teamIdAlias_ne_teamIdColumn]
    have hp : ∀ header ∈ (t.withoutColumn teamIdColumn).headers,
        (header == teamIdColumn || (header == teamIdAlias && teamIdColumn == teamIdColumn)) =
          (header == teamIdColumn || header == teamIdAlias) := by
      intro header _
      rw [beq_self_eq_true, Bool.and_true]
    -- A column of either spelling is read now, whichever comes first; one of the target name is
    -- left in front exactly where the alias does not lead.
    rw [cellWhere?_congr hp, cellWhere?_or, headers_withoutColumn]
    by_cases hl : t.AliasLeads
    · rw [if_pos hl, if_neg (mt any_takeWhile_erase_iff.mp (not_not_intro hl)),
        ← headers_withoutColumn]
      exact lookup?_withoutColumn teamIdAlias_ne_teamIdColumn row
    · rw [if_neg hl, if_pos (any_takeWhile_erase_iff.mpr hl), ← headers_withoutColumn]
      rfl
  · rw [if_neg h, if_neg h, if_neg h]

theorem identifierCell?_ne_none_iff {row : List Json} :
    t.identifierCell? row ≠ none ↔ t.HasIdentifier := by
  rw [← lookup?_identified, ne_eq, lookup?_eq_none_iff, Classical.not_not]
  by_cases h : teamIdAlias ∈ t.headers
  · have hcount := count_teamIdColumn_identified h
    have hmem : teamIdColumn ∈ t.identified.headers := List.count_pos_iff.mp (by omega)
    exact iff_of_true hmem (.inl h)
  · rw [identified, if_neg h]
    exact (or_iff_right h).symm

end LeagueStandings.Table
