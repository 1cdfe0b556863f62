import LeagueStandings.Proofs.Toml.Document
import LeagueStandings.Toml.Parser

/-!
# Documents that are read

What the readers give has distinct keys in all of its tables (`distinct_of_document?`). Words hold
no tables. Values between brackets and braces are nested, and the readers for them call each other,
so what they give is known by induction on their steps (`readsDistinct`): one lemma for each reader
takes the step.
-/

namespace LeagueStandings

namespace TomlWord

variable {cs : List Char} {value : Toml}

private theorem distinct_of_int64? {n : Int} (h : int64? n = some value) : value.Distinct := by
  obtain ⟨m, -, rfl⟩ := Option.map_eq_some_iff.mp h
  exact .integer m

private theorem distinct_of_marked? {base : Nat} (h : marked? base cs = some value) :
    value.Distinct := by
  obtain ⟨digits, -, h⟩ := Option.bind_eq_some_iff.mp h
  obtain ⟨n, -, h⟩ := Option.bind_eq_some_iff.mp h
  exact distinct_of_int64? h

private theorem distinct_of_special? (h : special? cs = some value) : value.Distinct := by
  rw [special?] at h
  dsimp only at h
  split at h
  · obtain rfl := Option.some.inj h
    exact .float _
  · split at h
    · obtain rfl := Option.some.inj h
      exact .float _
    · cases h

private theorem distinct_of_decimal? (h : decimal? cs = some value) : value.Distinct := by
  obtain ⟨digits, -, h⟩ := Option.bind_eq_some_iff.mp h
  obtain ⟨numeral, -, h⟩ := Option.bind_eq_some_iff.mp h
  dsimp only at h
  split at h
  · cases h
  · split at h
    · exact distinct_of_int64? h
    · split at h
      · cases h
      · obtain rfl := Option.some.inj h
        exact .float _

theorem distinct_of_value? (h : value? cs = some value) : value.Distinct := by
  unfold value? at h
  split at h
  · obtain rfl := Option.some.inj h
    exact .boolean true
  split at h
  · obtain rfl := Option.some.inj h
    exact .boolean false
  split at h
  · obtain rfl := Option.some.inj h
    exact .dateTime
  split at h
  · exact distinct_of_marked? h
  · exact distinct_of_marked? h
  · exact distinct_of_marked? h
  · rcases Option.or_eq_some_iff.mp h with h | ⟨-, h⟩
    · exact distinct_of_special? h
    · exact distinct_of_decimal? h

end TomlWord

namespace TomlReader

theorem distinct_of_word? {cs rest : List Char} {value : Toml} (h : word? cs = some (value, rest)) :
    value.Distinct := by
  obtain ⟨word, hword, h⟩ := Option.bind_eq_some_iff.mp h
  split at h
  · dsimp only at h
    split at h
    · obtain ⟨rfl, -⟩ := Prod.mk.inj (Option.some.inj h)
      exact .dateTime
    · obtain ⟨rfl, -⟩ := Prod.mk.inj (Option.some.inj h)
      exact TomlWord.distinct_of_value? hword
  · obtain ⟨rfl, -⟩ := Prod.mk.inj (Option.some.inj h)
    exact TomlWord.distinct_of_value? hword

/-- What the readers of nested values give in so many steps. -/
structure ReadsDistinct (steps : Nat) : Prop where
  value : ∀ {depth cs value rest}, value? steps depth cs = some (value, rest) → value.Distinct
  items : ∀ {depth cs items rest}, items? steps depth cs = some (items, rest) →
    ∀ item ∈ items, item.Distinct
  assignments : ∀ {depth cs assignments rest},
    assignments? steps depth cs = some (assignments, rest) → ∀ a ∈ assignments, a.2.Distinct

namespace ReadsDistinct

variable {steps depth : Nat} {cs rest : List Char} (ih : ReadsDistinct steps)

include ih

theorem value_succ {value : Toml} (h : value? (steps + 1) depth cs = some (value, rest)) :
    value.Distinct := by
  cases cs with
  | nil =>
    unfold value? at h
    cases h
  | cons c cs =>
    unfold value? at h
    dsimp only at h
    split at h
    · obtain ⟨⟨s, after⟩, -, h⟩ := Option.map_eq_some_iff.mp h
      obtain ⟨rfl, -⟩ := Prod.mk.inj h
      exact .string s
    split at h
    · split at h
      · cases h
      · obtain ⟨⟨items, after⟩, hitems, h⟩ := Option.map_eq_some_iff.mp h
        obtain ⟨rfl, -⟩ := Prod.mk.inj h
        exact .array (ih.items hitems)
    split at h
    · split at h
      · cases h
      · split at h
        · rw [Option.bind_eq_bind, Option.bind_some] at h
          obtain ⟨table, htable, h⟩ := Option.bind_eq_some_iff.mp h
          obtain ⟨rfl, -⟩ := Prod.mk.inj (Option.some.inj h)
          exact Toml.distinct_of_ofAssignments? (List.forall_mem_nil _) htable
        · obtain ⟨⟨assignments, after⟩, hassignments, h⟩ := Option.bind_eq_some_iff.mp h
          obtain ⟨table, htable, h⟩ := Option.bind_eq_some_iff.mp h
          obtain ⟨rfl, -⟩ := Prod.mk.inj (Option.some.inj h)
          exact Toml.distinct_of_ofAssignments? (ih.assignments hassignments) htable
    · exact distinct_of_word? h

theorem items_succ {items : List Toml} (h : items? (steps + 1) depth cs = some (items, rest)) :
    ∀ item ∈ items, item.Distinct := by
  rw [items?] at h
  obtain ⟨start, -, h⟩ := Option.bind_eq_some_iff.mp h
  split at h
  · obtain ⟨rfl, -⟩ := Prod.mk.inj (Option.some.inj h)
    exact List.forall_mem_nil _
  · obtain ⟨⟨item, after⟩, hitem, h⟩ := Option.bind_eq_some_iff.mp h
    obtain ⟨next, -, h⟩ := Option.bind_eq_some_iff.mp h
    split at h
    · obtain ⟨⟨others, last⟩, hothers, h⟩ := Option.bind_eq_some_iff.mp h
      obtain ⟨rfl, -⟩ := Prod.mk.inj (Option.some.inj h)
      exact List.forall_mem_cons.mpr ⟨ih.value hitem, ih.items hothers⟩
    · obtain ⟨rfl, -⟩ := Prod.mk.inj (Option.some.inj h)
      exact List.forall_mem_cons.mpr ⟨ih.value hitem, List.forall_mem_nil _⟩
    · cases h

theorem assignments_succ {assignments : List (List String × Toml)}
    (h : assignments? (steps + 1) depth cs = some (assignments, rest)) :
    ∀ a ∈ assignments, a.2.Distinct := by
  rw [assignments?] at h
  obtain ⟨⟨keys, start⟩, -, h⟩ := Option.bind_eq_some_iff.mp h
  dsimp only at h
  split at h
  · obtain ⟨⟨value, after⟩, hvalue, h⟩ := Option.bind_eq_some_iff.mp h
    split at h
    · obtain ⟨⟨others, last⟩, hothers, h⟩ := Option.bind_eq_some_iff.mp h
      obtain ⟨rfl, -⟩ := Prod.mk.inj (Option.some.inj h)
      exact List.forall_mem_cons.mpr ⟨ih.value hvalue, ih.assignments hothers⟩
    · obtain ⟨rfl, -⟩ := Prod.mk.inj (Option.some.inj h)
      exact List.forall_mem_cons.mpr ⟨ih.value hvalue, List.forall_mem_nil _⟩
    · cases h
  · cases h

end ReadsDistinct

theorem readsDistinct (steps : Nat) : ReadsDistinct steps := by
  induction steps with
  | zero =>
    constructor
    · intro depth cs value rest h
      rw [value?] at h
      cases h
    · intro depth cs items rest h
      rw [items?] at h
      cases h
    · intro depth cs assignments rest h
      rw [assignments?] at h
      cases h
  | succ steps ih => exact ⟨ih.value_succ, ih.items_succ, ih.assignments_succ⟩

theorem distinct_of_statement? {cs rest : List Char} {statement : TomlStatement}
    (h : statement? cs = some (statement, rest)) : statement.Distinct := by
  unfold statement? at h
  split at h
  · obtain ⟨⟨keys, after⟩, -, h⟩ := Option.bind_eq_some_iff.mp h
    dsimp only at h
    split at h
    · obtain ⟨last, -, h⟩ := Option.map_eq_some_iff.mp h
      obtain ⟨rfl, -⟩ := Prod.mk.inj h
      exact trivial
    · cases h
  · obtain ⟨⟨keys, after⟩, -, h⟩ := Option.bind_eq_some_iff.mp h
    dsimp only at h
    split at h
    · obtain ⟨last, -, h⟩ := Option.map_eq_some_iff.mp h
      obtain ⟨rfl, -⟩ := Prod.mk.inj h
      exact trivial
    · cases h
  · obtain ⟨⟨keys, after⟩, -, h⟩ := Option.bind_eq_some_iff.mp h
    dsimp only at h
    split at h
    · obtain ⟨⟨value, behind⟩, hvalue, h⟩ := Option.bind_eq_some_iff.mp h
      obtain ⟨last, -, h⟩ := Option.map_eq_some_iff.mp h
      obtain ⟨rfl, -⟩ := Prod.mk.inj h
      exact (readsDistinct _).value hvalue
    · cases h

theorem distinct_of_statements? {steps : Nat} {cs : List Char} {statements : List TomlStatement}
    (h : statements? steps cs = some statements) : ∀ s ∈ statements, s.Distinct := by
  induction steps generalizing cs statements with
  | zero =>
    rw [statements?] at h
    cases h
  | succ steps ih =>
    rw [statements?] at h
    obtain ⟨start, -, h⟩ := Option.bind_eq_some_iff.mp h
    split at h
    · obtain rfl := Option.some.inj h
      exact List.forall_mem_nil _
    · obtain ⟨⟨statement, after⟩, hstatement, h⟩ := Option.bind_eq_some_iff.mp h
      obtain ⟨others, hothers, h⟩ := Option.bind_eq_some_iff.mp h
      obtain rfl := Option.some.inj h
      exact List.forall_mem_cons.mpr ⟨distinct_of_statement? hstatement, ih hothers⟩

/-- **No document has a key twice**, in any of its tables. -/
theorem distinct_of_document? {text : String} {document : List (String × Toml)}
    (h : document? text = some document) : (Toml.table document).Distinct := by
  obtain ⟨statements, hstatements, h⟩ := Option.bind_eq_some_iff.mp h
  exact Toml.distinct_of_ofStatements? (distinct_of_statements? hstatements) h

end TomlReader

end LeagueStandings
