import LeagueStandings.Proofs.Link.Choice
import LeagueStandings.Proofs.Text.Blank
import LeagueStandings.Proofs.Text.Lowercase

/-!
# Names in another style

Two lists of teams and two lists of rows are compared whose names differ in style only: in the case
of ASCII letters, and in the white space around the name of a team, before the city of a row and
behind its name. Teams and rows are then linked alike (`link_restyled`).

The restyled rows are other rows, so a team does not get the same row. It gets the one at the same
position (`position?`). A link asks nothing of the rows but where an identifier or a compared name
first occurs among theirs (`position?_eq`), and the lists of these do not change with the style, so
the search itself is never gone through again.

White space between city and name is part of what is compared. This is why it is added before a city
and behind a name only.
-/

namespace LeagueStandings

/-! ## Restyled names -/

theorem comparableName_congr {s t : String} (h : Text.SameLetters s t) :
    comparableName s = comparableName t :=
  Text.lower_trim_congr h

theorem comparableName_padded {before after : String} (hbefore : Text.isBlankText before = true)
    (hafter : Text.isBlankText after = true) (s : String) :
    comparableName (before ++ s ++ after) = comparableName s := by
  rw [comparableName, Text.trim_padded hbefore hafter, comparableName]

/-- Both entries are absent, or both null, or both have values that stand in the relation. -/
inductive Entry.Rel {α : Type} (r : α → α → Prop) : Entry α → Entry α → Prop
  | absent : Rel r .absent .absent
  | null : Rel r .null .null
  | value {a b : α} : r a b → Rel r (.value a) (.value b)

/-- An absent entry is as good as one with the value `a`, if `a` is related to itself. -/
theorem Entry.Rel.getD {α : Type} {r : α → α → Prop} {a : α} (ha : r a a) {entry other : Entry α}
    (h : entry.Rel r other) : r (entry.toOption.getD a) (other.toOption.getD a) := by
  cases h with
  | absent => exact ha
  | null => exact ha
  | value hvalue => exact hvalue

/-- The other team has the same identifier, and the same name in another style. -/
structure TeamRecord.Restyles (team other : TeamRecord) : Prop where
  id : other.id = team.id
  name : ∃ before recased after, Text.isBlankText before = true ∧
    Text.isBlankText after = true ∧ Text.SameLetters team.name recased ∧
    other.name = before ++ recased ++ after

/-- The other row has the same identifier, and the same city and name in another style. -/
structure StandingsRow.Restyles (row other : StandingsRow) : Prop where
  sourceTeamId : other.sourceTeamId = row.sourceTeamId
  city : row.city.Rel (fun city restyled ↦ ∃ before recased, Text.isBlankText before = true ∧
    Text.SameLetters city recased ∧ restyled = before ++ recased) other.city
  name : row.name.Rel (fun name restyled ↦ ∃ recased after, Text.isBlankText after = true ∧
    Text.SameLetters name recased ∧ restyled = recased ++ after) other.name

theorem TeamRecord.Restyles.comparableName_eq {team other : TeamRecord} (h : team.Restyles other) :
    comparableName other.name = comparableName team.name := by
  obtain ⟨before, recased, after, hbefore, hafter, hletters, hname⟩ := h.name
  rw [hname, comparableName_padded hbefore hafter, comparableName_congr hletters]

theorem StandingsRow.Restyles.comparableName_eq {row other : StandingsRow}
    (h : row.Restyles other) : other.comparableName = row.comparableName := by
  -- A missing part is an empty text, which is left as it is.
  obtain ⟨before, city, hbefore, hcity, heqCity⟩ := h.city.getD ⟨"", "", rfl, .refl _, rfl⟩
  obtain ⟨name, after, hafter, hname, heqName⟩ := h.name.getD ⟨"", "", rfl, .refl _, rfl⟩
  have hjoined : before ++ city ++ " " ++ (name ++ after) =
      before ++ (city ++ " " ++ name) ++ after := by
    simp only [String.append_assoc]
  rw [comparableName, heqCity, heqName, hjoined, comparableName_padded hbefore hafter,
    ← comparableName_congr ((hcity.append (.refl " ")).append hname), comparableName]

/-! ## Positions -/

namespace StandingsRow

/-- The position of the row that describes a team. -/
def position? (rows : List StandingsRow) (team : TeamRecord) : Option Nat :=
  match rows.findIdx? (·.sourceTeamId == team.id) with
  | some index => some index
  | none => rows.findIdx? (·.comparableName == LeagueStandings.comparableName team.name)

variable {rows rows' : List StandingsRow} {team team' : TeamRecord}

theorem lt_length_of_position? {index : Nat} (h : position? rows team = some index) :
    index < rows.length := by
  rw [position?] at h
  split at h
  · next hid => exact Option.some.inj h ▸ (List.findIdx?_eq_some_iff_getElem.mp hid).1
  · exact (List.findIdx?_eq_some_iff_getElem.mp h).1

theorem find?_eq_bind_position? (rows : List StandingsRow) (team : TeamRecord) :
    find? rows team = (position? rows team).bind fun index ↦ rows[index]? := by
  rw [find?, position?, List.find?_eq_bind_findIdx?_getElem?,
    List.find?_eq_bind_findIdx?_getElem?]
  cases hid : rows.findIdx? (·.sourceTeamId == team.id) with
  | none => rfl
  | some index =>
    have hlt := (List.findIdx?_eq_some_iff_getElem.mp hid).1
    simp only [Option.bind_some, List.getElem?_eq_getElem hlt]

theorem isNone_find? (rows : List StandingsRow) (team : TeamRecord) :
    (find? rows team).isNone = (position? rows team).isNone := by
  rw [find?_eq_bind_position?]
  cases h : position? rows team with
  | none => rfl
  | some index =>
    rw [Option.bind_some, List.getElem?_eq_getElem (lt_length_of_position? h)]
    rfl

theorem position?_eq (rows : List StandingsRow) (team : TeamRecord) :
    position? rows team =
      match (rows.map (·.sourceTeamId)).findIdx? (· == team.id) with
      | some index => some index
      | none => (rows.map (·.comparableName)).findIdx?
          (· == LeagueStandings.comparableName team.name) := by
  rw [position?, List.findIdx?_map, List.findIdx?_map]
  rfl

theorem position?_of_restyles (hrows : List.Forall₂ Restyles rows rows')
    (hteam : team.Restyles team') : position? rows' team' = position? rows team := by
  have hids : rows.map (·.sourceTeamId) = rows'.map (·.sourceTeamId) :=
    map_eq_map_of_forall₂ (hrows.imp fun _ _ h ↦ h.sourceTeamId.symm)
  have hnames : rows.map (·.comparableName) = rows'.map (·.comparableName) :=
    map_eq_map_of_forall₂ (hrows.imp fun _ _ h ↦ h.comparableName_eq.symm)
  rw [position?_eq, position?_eq, ← hids, ← hnames, hteam.id, hteam.comparableName_eq]

end StandingsRow

/-! ## Reports -/

/-- The report in which each team has the row at its position, and is unmatched without one. -/
def LinkReport.ofPositions (rows : List StandingsRow) (teams : List TeamRecord)
    (positions : List (Option Nat)) : LinkReport where
  matched := (teams.zip positions).filterMap fun (team, position?) ↦
    (position?.bind fun index ↦ rows[index]?).map (LinkedTeam.of team)
  unmatched := ((teams.zip positions).filter fun (_, position?) ↦ position?.isNone).map
    fun (team, _) ↦ team.name

theorem link_eq_ofPositions (teams : List TeamRecord) (rows : List StandingsRow) :
    link teams rows = .ofPositions rows teams (teams.map (StandingsRow.position? rows)) := by
  rw [link, LinkReport.ofPositions, ← List.map_prod_left_eq_zip, List.filterMap_map,
    List.filter_map, List.map_map]
  -- First whether there is a row, since no search is left to ask about afterwards.
  simp only [StandingsRow.isNone_find?]
  simp only [StandingsRow.find?_eq_bind_position?]
  rfl

/-- **The style of names does not matter.** Teams and rows in another style have the same positions,
so each team is matched to the same row, or stays unmatched. -/
theorem link_restyled {teams teams' : List TeamRecord} {rows rows' : List StandingsRow}
    (hteams : List.Forall₂ TeamRecord.Restyles teams teams')
    (hrows : List.Forall₂ StandingsRow.Restyles rows rows') :
    teams'.map (StandingsRow.position? rows') = teams.map (StandingsRow.position? rows) ∧
      link teams rows = .ofPositions rows teams (teams.map (StandingsRow.position? rows)) ∧
      link teams' rows' = .ofPositions rows' teams' (teams.map (StandingsRow.position? rows)) := by
  have hpositions : teams.map (StandingsRow.position? rows) =
      teams'.map (StandingsRow.position? rows') :=
    map_eq_map_of_forall₂
      (hteams.imp fun _ _ h ↦ (StandingsRow.position?_of_restyles hrows h).symm)
  refine ⟨hpositions.symm, link_eq_ofPositions teams rows, ?_⟩
  rw [hpositions]
  exact link_eq_ofPositions teams' rows'

/-- A team whose name ends with a capital sigma. -/
def alphas : TeamRecord := ⟨1, "ALS", "Team", "Team ΑΣ"⟩

/-- It in another style, in which the sigma is not the last character. -/
def alphasRestyled : TeamRecord := { alphas with name := "\u2003tEAM ΑΣ\n" }

/-- A row without a city, and the row of the team. -/
def alphasRows : List StandingsRow :=
  [.ofNames 7 .null (.value "ΑΣ") 90, .ofNames 8 (.value "Team") (.value "ΑΣ") 100]

/-- These in another style. -/
def alphasRowsRestyled : List StandingsRow :=
  [.ofNames 7 .null (.value "ΑΣ ") 90, .ofNames 8 (.value " TEAM") (.value "ΑΣ\t") 100]

/-- The team is matched to the second row, in either style. -/
theorem link_restyled_sigma :
    List.Forall₂ TeamRecord.Restyles [alphas] [alphasRestyled] ∧
      List.Forall₂ StandingsRow.Restyles alphasRows alphasRowsRestyled ∧
      link [alphas] alphasRows = .ofPositions alphasRows [alphas] [some 1] ∧
      link [alphasRestyled] alphasRowsRestyled =
        .ofPositions alphasRowsRestyled [alphasRestyled] [some 1] ∧
      (link [alphasRestyled] alphasRowsRestyled).matched.map (·.points) = [.ofInt 100] := by
  have hteams : List.Forall₂ TeamRecord.Restyles [alphas] [alphasRestyled] :=
    .cons ⟨rfl, "\u2003", "tEAM ΑΣ", "\n", by decide, by decide, by decide, by decide⟩ .nil
  have hrows : List.Forall₂ StandingsRow.Restyles alphasRows alphasRowsRestyled :=
    .cons ⟨rfl, .null, .value ⟨"ΑΣ", " ", by decide, by decide, by decide⟩⟩
      (.cons ⟨rfl, .value ⟨" ", "TEAM", by decide, by decide, by decide⟩,
        .value ⟨"ΑΣ", "\t", by decide, by decide, by decide⟩⟩ .nil)
  have hpositions : [alphas].map (StandingsRow.position? alphasRows) = [some 1] := by
    decide +kernel
  obtain ⟨-, hlink, hlink'⟩ := link_restyled hteams hrows
  rw [hpositions] at hlink hlink'
  refine ⟨hteams, hrows, hlink, hlink', ?_⟩
  decide +kernel

end LeagueStandings
