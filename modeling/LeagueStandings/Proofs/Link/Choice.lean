import LeagueStandings.Proofs.Link

/-!
# Which row a team is linked to

A link asks two questions of the rows, one after the other: which is the first row with the
identifier of the team, and, only if there is none, which is the first row with its name. The answer
is the row that describes the team (`find?_eq_some_iff`); it exists for the teams that some row fits
in one way or the other, whichever it is (`find?_eq_none_iff`).

A report splits the teams along that line (`LinkReport.Splits`), in their order and with each team on
one side. Where identifiers and names are not repeated among the rows, "first" means "only", and then
the order of the rows is of no importance (`find?_perm`).
-/

namespace LeagueStandings

/-! ## First elements and related lists -/

section Lists

variable {α β : Type}

/-- The element has the property, and the list has none with it before that one. -/
def IsFirstWith (p : α → Prop) (l : List α) (a : α) : Prop :=
  p a ∧ ∃ before after, l = before ++ a :: after ∧ ∀ b ∈ before, ¬ p b

theorem find?_beq_eq_some_iff [DecidableEq β] {key : α → β} {k : β} {l : List α} {a : α} :
    l.find? (key · == k) = some a ↔ IsFirstWith (key · = k) l a := by
  rw [List.find?_eq_some_iff_append, IsFirstWith]
  simp only [beq_iff_eq, Bool.not_eq_true', beq_eq_false_iff_ne, ne_eq]

theorem find?_beq_eq_none_iff [DecidableEq β] {key : α → β} {k : β} {l : List α} :
    l.find? (key · == k) = none ↔ ∀ a ∈ l, key a ≠ k := by
  simp only [List.find?_eq_none, beq_iff_eq, ne_eq]

theorem find?_beq_perm [DecidableEq β] {key : α → β} {l l' : List α} (h : l.Perm l')
    (hnodup : (l.map key).Nodup) (k : β) : l.find? (key · == k) = l'.find? (key · == k) := by
  induction h with
  | nil => rfl
  | cons a _ ih =>
    rw [List.map_cons, List.nodup_cons] at hnodup
    rw [List.find?_cons, List.find?_cons, ih hnodup.2]
  | swap a b l =>
    rw [List.find?_cons, List.find?_cons, List.find?_cons, List.find?_cons]
    cases ha : key a == k <;> cases hb : key b == k <;> try rfl
    -- Only one of the two has the key.
    rw [List.map_cons, List.map_cons, List.nodup_cons, eq_of_beq ha, eq_of_beq hb] at hnodup
    exact absurd List.mem_cons_self hnodup.1
  | trans h _ ih ih' =>
    exact (ih hnodup).trans (ih' ((h.map key).nodup_iff.mp hnodup))

theorem map_eq_map_of_forall₂ {γ : Type} {f : α → γ} {g : β → γ} {l : List α} {l' : List β}
    (h : List.Forall₂ (fun a b ↦ f a = g b) l l') : l.map f = l'.map g := by
  rwa [← List.forall₂_eq_eq_eq, List.forall₂_map_left_iff, List.forall₂_map_right_iff]

theorem forall₂_filterMap (f : α → Option β) (l : List α) :
    List.Forall₂ (fun a b ↦ f a = some b) (l.filter fun a ↦ (f a).isSome) (l.filterMap f) := by
  induction l with
  | nil => exact .nil
  | cons a l ih =>
    cases h : f a with
    | none =>
      rw [List.filter_cons_of_neg (by simp [h]), List.filterMap_cons_none h]
      exact ih
    | some b =>
      rw [List.filter_cons_of_pos (by simp [h]), List.filterMap_cons_some h]
      exact .cons h ih

end Lists

/-! ## Rows and teams -/

namespace StandingsRow

/-- The row has the identifier of the team, or its name. -/
def Fits (row : StandingsRow) (team : TeamRecord) : Prop :=
  row.sourceTeamId = team.id ∨ row.comparableName = LeagueStandings.comparableName team.name

instance (row : StandingsRow) (team : TeamRecord) : Decidable (row.Fits team) := instDecidableOr

/-- Some row fits the team. -/
def FitsSome (rows : List StandingsRow) (team : TeamRecord) : Prop := ∃ row ∈ rows, row.Fits team

instance (rows : List StandingsRow) : DecidablePred (FitsSome rows) :=
  fun team ↦ inferInstanceAs (Decidable (∃ row ∈ rows, row.Fits team))

/-- The row is the first one with the identifier of the team, or, if there is no such row, the first
one with its name. -/
def Describes (rows : List StandingsRow) (team : TeamRecord) (row : StandingsRow) : Prop :=
  IsFirstWith (·.sourceTeamId = team.id) rows row ∨
    (∀ other ∈ rows, other.sourceTeamId ≠ team.id) ∧
      IsFirstWith (·.comparableName = LeagueStandings.comparableName team.name) rows row

variable {rows rows' : List StandingsRow} {team : TeamRecord} {row : StandingsRow}

theorem find?_eq_some_iff : find? rows team = some row ↔ Describes rows team row := by
  rw [find?, Describes, ← find?_beq_eq_some_iff, ← find?_beq_eq_none_iff,
    ← find?_beq_eq_some_iff]
  cases rows.find? (·.sourceTeamId == team.id) with
  | none => simp
  | some other => simp

theorem find?_eq_none_iff : find? rows team = none ↔ ¬ FitsSome rows team := by
  have hfits : ¬ FitsSome rows team ↔ (∀ row ∈ rows, row.sourceTeamId ≠ team.id) ∧
      ∀ row ∈ rows, row.comparableName ≠ LeagueStandings.comparableName team.name := by
    simp only [FitsSome, Fits, not_exists, not_and, not_or, forall_and]
  rw [hfits, find?, ← find?_beq_eq_none_iff, ← find?_beq_eq_none_iff]
  cases rows.find? (·.sourceTeamId == team.id) with
  | none => simp
  | some other => simp

theorem isSome_find? (rows : List StandingsRow) (team : TeamRecord) :
    (find? rows team).isSome = decide (FitsSome rows team) := by
  rw [Bool.eq_iff_iff, decide_eq_true_iff, Option.isSome_iff_ne_none, ne_eq, find?_eq_none_iff,
    not_not]

/-- Rows without repeated identifiers and names describe a team in every order. -/
theorem find?_perm (h : rows.Perm rows') (hids : (rows.map (·.sourceTeamId)).Nodup)
    (hnames : (rows.map (·.comparableName)).Nodup) (team : TeamRecord) :
    find? rows' team = find? rows team := by
  rw [find?, find?, find?_beq_perm h hids, find?_beq_perm h hnames]

end StandingsRow

/-! ## Reports -/

/-- The report splits the teams into those that some row fits and the others, each kind in the order
of the teams. -/
structure LinkReport.Splits (report : LinkReport) (teams : List TeamRecord)
    (rows : List StandingsRow) : Prop where
  /-- A matched team has the statistics of the row that describes it. -/
  matched : List.Forall₂
    (fun team linked ↦ ∃ row, StandingsRow.Describes rows team row ∧ linked = .of team row)
    (teams.filter (StandingsRow.FitsSome rows ·)) report.matched
  /-- It is listed under its own identifier and name. -/
  identities : report.matched.map (fun linked ↦ (linked.teamId, linked.name)) =
    (teams.filter (StandingsRow.FitsSome rows ·)).map fun team ↦ (team.id, team.name)
  /-- An unmatched team is listed under its own name. -/
  unmatched : report.unmatched =
    (teams.filter (¬ StandingsRow.FitsSome rows ·)).map (·.name)
  /-- No team is lost, and none is listed twice. -/
  length : report.matched.length + report.unmatched.length = teams.length

theorem forall₂_matched_link (teams : List TeamRecord) (rows : List StandingsRow) :
    List.Forall₂
      (fun team linked ↦ ∃ row, StandingsRow.Describes rows team row ∧ linked = .of team row)
      (teams.filter (StandingsRow.FitsSome rows ·)) (link teams rows).matched := by
  have hmatched := forall₂_filterMap
    (fun team ↦ (StandingsRow.find? rows team).map (LinkedTeam.of team)) teams
  simp only [Option.isSome_map, StandingsRow.isSome_find?] at hmatched
  refine hmatched.imp fun team linked h ↦ ?_
  obtain ⟨row, hrow, rfl⟩ := Option.map_eq_some_iff.mp h
  exact ⟨row, StandingsRow.find?_eq_some_iff.mp hrow, rfl⟩

theorem unmatched_link (teams : List TeamRecord) (rows : List StandingsRow) :
    (link teams rows).unmatched =
      (teams.filter (¬ StandingsRow.FitsSome rows ·)).map (·.name) := by
  refine congrArg (List.map TeamRecord.name) (List.filter_congr fun team _ ↦ ?_)
  rw [← Option.not_isSome, StandingsRow.isSome_find?, decide_not]

/-- **What a link reports.** The teams are split into those that some row fits, each with the
statistics of the row that describes it, and the others. If no identifier and no name is repeated
among the rows, their order does not matter. -/
theorem link_splits (teams : List TeamRecord) (rows : List StandingsRow) :
    (link teams rows).Splits teams rows ∧
      ((rows.map (·.sourceTeamId)).Nodup → (rows.map (·.comparableName)).Nodup →
        ∀ rows', rows.Perm rows' → link teams rows' = link teams rows) := by
  constructor
  · have hmatched := forall₂_matched_link teams rows
    refine ⟨hmatched, ?_, unmatched_link teams rows, length_link teams rows⟩
    refine map_eq_map_of_forall₂ (hmatched.flip.imp ?_)
    rintro linked team ⟨row, -, rfl⟩
    rfl
  · intro hids hnames rows' hperm
    simp only [link, StandingsRow.find?_perm hperm hids hnames]

/-- A row of which nothing but its identifier, its city, its name and its points is known. -/
def StandingsRow.ofNames (id : Int64) (city name : Entry String) (points : Int) : StandingsRow where
  sourceTeamId := id
  city := city
  name := name
  conference := .absent
  division := .absent
  wins := .absent
  losses := .absent
  winPct := .absent
  points := .ofInt points
  opponentPoints := .absent
  pointsDifference := .absent
  fullName := .absent
  teamId := id

/-- A team. -/
def clippers : TeamRecord := ⟨42, "LAC", "Los Angeles", "Los Angeles Clippers"⟩

/-- A row with its name. -/
def clippersByName : StandingsRow := .ofNames 7 (.value " los angeles") (.value "CLIPPERS") 112

/-- A row with its identifier, and without a name. -/
def clippersById : StandingsRow := .ofNames 42 .null .absent 100

/-- The identifier counts for more than the name, in both orders of the rows. -/
theorem link_splits_clippers :
    (link [clippers] [clippersByName, clippersById]).Splits [clippers]
      [clippersByName, clippersById] ∧
    link [clippers] [clippersById, clippersByName] =
      link [clippers] [clippersByName, clippersById] ∧
    (link [clippers] [clippersByName, clippersById]).matched.map (·.points) = [.ofInt 100] ∧
    (link [clippers] [clippersByName]).matched.map (·.points) = [.ofInt 112] := by
  obtain ⟨hsplits, hperm⟩ := link_splits [clippers] [clippersByName, clippersById]
  have hids : ([clippersByName, clippersById].map (·.sourceTeamId)).Nodup := by decide
  have hnames : ([clippersByName, clippersById].map (·.comparableName)).Nodup := by decide +kernel
  refine ⟨hsplits, hperm hids hnames _ (.swap _ _ _), ?_, ?_⟩
  · decide +kernel
  · decide +kernel

end LeagueStandings
