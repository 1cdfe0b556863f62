import LeagueStandings.Proofs.Standings.Outcomes

/-!
# When the alias wins

A table that has the alias is meant to be identified by it: the other spelling is discarded, and
every row carries the alias. `AliasWins` is that promise, and it is kept exactly by the tables that
name the alias once and the other spelling at most once (`aliasWins_iff`).

## Where it is not kept

Discarding stops at one column. A second column of the other spelling stays, and if it and another
one stand before the alias, then it is the one that the rows are identified by. A second column of
the alias keeps its name.
-/

namespace LeagueStandings.Table

/-- Every line that a normalizer makes of the table carries, twice, the integer that its row shows
in the given cell. -/
def IdentifiedBy (t : Table) (cell? : List Json → Option Json) : Prop :=
  ∀ (n : Normalizer) (lines : List StandingsRow), n.normalize t = .ok lines →
    List.Forall₂
      (fun row line ↦ ∃ cell, cell? row = some cell ∧
        cell.integerCell = .ok (some line.sourceTeamId) ∧ line.teamId = line.sourceTeamId)
      (n.retained t) lines

/-- The table's identifier column has one name afterwards, which stands for the first column of the
alias in every row, and so do the identifiers of the lines. -/
structure AliasWins (t : Table) : Prop where
  /-- Reconciling the spellings leaves one column of the target name, which is the alias. -/
  reconciled : ∃ reconciled, t.withIdentifier = .ok reconciled ∧
    reconciled.headers.count teamIdColumn = 1 ∧ teamIdAlias ∉ reconciled.headers ∧
    reconciled.rows.map (reconciled.lookup? · teamIdColumn) = t.rows.map (t.lookup? · teamIdAlias)
  /-- The lines are identified by the alias. -/
  lines : t.IdentifiedBy (t.lookup? · teamIdAlias)

variable {t : Table}

theorem withIdentifier_of_mem (h : teamIdAlias ∈ t.headers) :
    t.withIdentifier = .ok t.identified := by
  rw [withIdentifier_eq, if_pos (show t.HasIdentifier from .inl h)]

theorem map_lookup?_identified (t : Table) :
    t.identified.rows.map (t.identified.lookup? · teamIdColumn) =
      t.rows.map t.identifierCell? := by
  rw [rows_identified, List.map_map]
  exact List.map_congr_left fun row _ ↦ lookup?_identified t row

/-- Whatever the headers are, the lines are identified by the cell that is read as identifier. -/
theorem identifiedBy_identifierCell? (t : Table) : t.IdentifiedBy t.identifierCell? := by
  intro n lines h
  obtain ⟨-, -, hlines⟩ := Normalizer.normalize_eq_ok_iff.mp h
  rw [← List.zipIdx_map_fst 0 (n.retained t), List.forall₂_map_left_iff]
  refine hlines.imp fun row line hreads ↦ ?_
  obtain ⟨cell, hcell, hread⟩ := requireField_eq_ok_iff.mp hreads.sourceTeamId
  rw [sourceCell?_teamIdColumn] at hcell
  exact ⟨cell, hcell, hread, hreads.teamId⟩

theorem identifierCell?_of_aliasLeads (h : teamIdAlias ∈ t.headers) (hl : t.AliasLeads) :
    t.identifierCell? = (t.lookup? · teamIdAlias) := by
  funext row
  rw [identifierCell?, if_pos h, if_pos hl]

/-- **When the alias wins.** Of the tables that have the alias, it wins on those that name it once
and the other spelling at most once. The rows are identified by it also where it is repeated, or
follows no more than one column of the other spelling; otherwise the second such column identifies
them. -/
theorem aliasWins_iff (h : teamIdAlias ∈ t.headers) :
    (t.AliasWins ↔ t.headers.count teamIdColumn ≤ 1 ∧ t.headers.count teamIdAlias = 1) ∧
      (t.AliasLeads → t.IdentifiedBy (t.lookup? · teamIdAlias)) ∧
      (¬ t.AliasLeads → t.IdentifiedBy (t.lookupSecond? · teamIdColumn)) := by
  refine ⟨⟨fun hwins ↦ ?_, fun ⟨hcolumn, halias⟩ ↦ ?_⟩, fun hl ↦ ?_, fun hl ↦ ?_⟩
  · obtain ⟨reconciled, hok, hcount, hnot, -⟩ := hwins.reconciled
    cases (withIdentifier_of_mem h).symm.trans hok
    rw [count_teamIdColumn_identified h] at hcount
    have hleft := List.count_eq_zero_of_not_mem hnot
    rw [count_teamIdAlias_identified h] at hleft
    have hpos : 0 < t.headers.count teamIdAlias := List.count_pos_iff.mpr h
    exact ⟨by omega, by omega⟩
  · have hcell := identifierCell?_of_aliasLeads h (aliasLeads_of_count_le_one hcolumn)
    refine ⟨⟨t.identified, withIdentifier_of_mem h, ?_, ?_, ?_⟩, ?_⟩
    · rw [count_teamIdColumn_identified h]
      omega
    · rw [← List.count_eq_zero, count_teamIdAlias_identified h, halias]
    · rw [map_lookup?_identified, hcell]
    · exact hcell ▸ identifiedBy_identifierCell? t
  · exact identifierCell?_of_aliasLeads h hl ▸ identifiedBy_identifierCell? t
  · have hcell : t.identifierCell? = (t.lookupSecond? · teamIdColumn) := by
      funext row
      rw [identifierCell?, if_pos h, if_neg hl]
    exact hcell ▸ identifiedBy_identifierCell? t

/-- The alias wins over one column of the other spelling. -/
theorem aliasWins_of_one_of_each :
    (⟨"Standings", ["TEAM_ID", "TeamID", "PointsPG"],
      [[.int64 2, .int64 3, .int64 100]]⟩ : Table).AliasWins :=
  (aliasWins_iff (by decide)).1.mpr (by decide)

/-- A table with two columns of the other spelling in front of the alias. -/
def twoBeforeAlias : Table :=
  ⟨"Standings", ["TEAM_ID", "TEAM_ID", "TeamID", "PointsPG"],
    [[.int64 1, .int64 2, .int64 3, .int64 100]]⟩

/-- There the alias does not win: it says 3, and the line says 2. -/
theorem not_aliasWins_twoBeforeAlias :
    ¬ twoBeforeAlias.AliasWins ∧
      twoBeforeAlias.rows.map (twoBeforeAlias.lookup? · teamIdAlias) = [some (.int64 3)] ∧
      (({} : Normalizer).normalize twoBeforeAlias).toOption.map (·.map (·.sourceTeamId)) =
        some [2] := by
  have hmem : teamIdAlias ∈ twoBeforeAlias.headers := by decide
  refine ⟨fun hwins ↦ ?_, rfl, by decide +kernel⟩
  obtain ⟨reconciled, hok, hcount, -⟩ := hwins.reconciled
  cases (withIdentifier_of_mem hmem).symm.trans hok
  rw [count_teamIdColumn_identified hmem] at hcount
  exact absurd hcount (by decide)

end LeagueStandings.Table
