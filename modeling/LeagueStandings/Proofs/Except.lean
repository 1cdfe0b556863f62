import Mathlib.Data.List.Forall2

/-!
# Computations that may fail

A row is read column by column and a table row by row, and the first failure ends both. The lemmas
here take such a computation apart: what must have happened for it to give its result, and where it
stopped if it did not.
-/

namespace LeagueStandings

variable {ε α β : Type}

theorem ok_bind (a : α) (f : α → Except ε β) : Except.ok a >>= f = f a := rfl

theorem error_bind (e : ε) (f : α → Except ε β) : Except.error e >>= f = .error e := rfl

theorem exists_of_isOk {x : Except ε α} (h : x.isOk = true) : ∃ a, x = .ok a := by
  cases x with
  | error e => cases h
  | ok a => exact ⟨a, rfl⟩

theorem bind_eq_ok_iff {x : Except ε α} {f : α → Except ε β} {b : β} :
    x >>= f = .ok b ↔ ∃ a, x = .ok a ∧ f a = .ok b := by
  constructor
  · intro h
    cases x with
    | error e => cases h
    | ok a => exact ⟨a, rfl, h⟩
  · rintro ⟨a, rfl, h⟩
    exact h

theorem bind_eq_error_iff {x : Except ε α} {f : α → Except ε β} {e : ε} :
    x >>= f = .error e ↔ x = .error e ∨ ∃ a, x = .ok a ∧ f a = .error e := by
  constructor
  · intro h
    cases x with
    | error e' =>
      cases h
      exact .inl rfl
    | ok a => exact .inr ⟨a, rfl, h⟩
  · rintro (rfl | ⟨a, rfl, h⟩)
    · rfl
    · exact h

theorem mapError_eq_ok_iff {ε' : Type} {x : Except ε α} {f : ε → ε'} {a : α} :
    x.mapError f = .ok a ↔ x = .ok a := by
  cases x with
  | error e =>
    constructor
    · intro h
      cases h
    · intro h
      cases h
  | ok b =>
    constructor
    · intro h
      rw [Except.ok.inj h]
    · intro h
      rw [Except.ok.inj h, Except.mapError]

theorem map_eq_ok_iff {x : Except ε α} {f : α → β} {b : β} :
    x.map f = .ok b ↔ ∃ a, x = .ok a ∧ f a = b := by
  cases x with
  | error e =>
    constructor
    · intro h
      cases h
    · rintro ⟨a, h, -⟩
      cases h
  | ok a =>
    constructor
    · intro h
      exact ⟨a, rfl, Except.ok.inj h⟩
    · rintro ⟨a, h, rfl⟩
      cases h
      rfl

theorem exists_of_mem_forall₂ {R : α → β → Prop} {l : List α} {results : List β}
    (h : List.Forall₂ R l results) {b : β} (hb : b ∈ results) : ∃ a ∈ l, R a b := by
  induction h with
  | nil => cases hb
  | cons hfirst _ ih =>
    rcases List.mem_cons.mp hb with rfl | hb
    · exact ⟨_, List.mem_cons_self, hfirst⟩
    · obtain ⟨a, ha, hr⟩ := ih hb
      exact ⟨a, List.mem_cons_of_mem _ ha, hr⟩

theorem mapM_eq_ok_iff {f : α → Except ε β} {l : List α} {results : List β} :
    l.mapM f = .ok results ↔ List.Forall₂ (fun a b ↦ f a = .ok b) l results := by
  induction l generalizing results with
  | nil =>
    rw [List.mapM_nil, List.forall₂_nil_left_iff]
    exact ⟨fun h ↦ (Except.ok.inj h).symm, fun h ↦ h ▸ rfl⟩
  | cons a l ih =>
    rw [List.mapM_cons, List.forall₂_cons_left_iff, bind_eq_ok_iff]
    constructor
    · rintro ⟨b, hb, hrest⟩
      obtain ⟨bs, hbs, heq⟩ := bind_eq_ok_iff.mp hrest
      exact ⟨b, bs, hb, ih.mp hbs, (Except.ok.inj heq).symm⟩
    · rintro ⟨b, bs, hb, hbs, rfl⟩
      exact ⟨b, hb, bind_eq_ok_iff.mpr ⟨bs, ih.mpr hbs, rfl⟩⟩

/-- Going through a list fails where the first element does. -/
theorem mapM_eq_error_iff {f : α → Except ε β} {l : List α} {e : ε} :
    l.mapM f = .error e ↔
      ∃ (index : Nat) (a : α), l[index]? = some a ∧ f a = .error e ∧
        ∀ i < index, ∀ other, l[i]? = some other → ∃ b, f other = .ok b := by
  induction l with
  | nil =>
    constructor
    · intro h
      cases h
    · rintro ⟨index, a, ha, -⟩
      cases ha
  | cons a l ih =>
    rw [List.mapM_cons, bind_eq_error_iff]
    constructor
    -- Either the head fails, or it passes and the failure is one of the rest, a position later.
    · rintro (h | ⟨b, hb, hrest⟩)
      · exact ⟨0, a, rfl, h, fun i hi ↦ absurd hi (Nat.not_lt_zero i)⟩
      · rcases bind_eq_error_iff.mp hrest with h | ⟨bs, -, h⟩
        · obtain ⟨index, a', ha', he, hbefore⟩ := ih.mp h
          refine ⟨index + 1, a', ha', he, fun i hi other ho ↦ ?_⟩
          cases i with
          | zero =>
            cases ho
            exact ⟨b, hb⟩
          | succ i => exact hbefore i (Nat.lt_of_succ_lt_succ hi) other ho
        · cases h
    · rintro ⟨index, a', ha', he, hbefore⟩
      cases index with
      | zero =>
        cases ha'
        exact .inl he
      | succ index =>
        obtain ⟨b, hb⟩ := hbefore 0 (Nat.succ_pos index) a rfl
        refine .inr ⟨b, hb, bind_eq_error_iff.mpr (.inl (ih.mpr ⟨index, a', ha', he, ?_⟩))⟩
        exact fun i hi ↦ hbefore (i + 1) (Nat.succ_lt_succ hi)

theorem exists_mapM_eq_ok_iff {f : α → Except ε β} {l : List α} :
    (∃ results, l.mapM f = .ok results) ↔ ∀ a ∈ l, ∃ b, f a = .ok b := by
  simp only [mapM_eq_ok_iff]
  induction l with
  | nil => exact iff_of_true ⟨[], .nil⟩ fun a h ↦ absurd h List.not_mem_nil
  | cons a l ih =>
    simp only [List.forall₂_cons_left_iff, List.forall_mem_cons, ← ih]
    constructor
    · rintro ⟨_, b, bs, hb, hbs, rfl⟩
      exact ⟨⟨b, hb⟩, bs, hbs⟩
    · rintro ⟨⟨b, hb⟩, bs, hbs⟩
      exact ⟨b :: bs, b, bs, hb, hbs, rfl⟩

theorem mapM_zipIdx_eq_error_iff {f : α → Nat → Except ε β} {l : List α} {e : ε} :
    (l.zipIdx.mapM fun numbered ↦ f numbered.1 numbered.2) = .error e ↔
      ∃ (index : Nat) (a : α), l[index]? = some a ∧ f a index = .error e ∧
        ∀ i < index, ∀ other, l[i]? = some other → ∃ b, f other i = .ok b := by
  have hget : ∀ {i : Nat} {numbered : α × Nat},
      l.zipIdx[i]? = some numbered ↔ l[i]? = some numbered.1 ∧ i = numbered.2 := by
    intro i numbered
    rw [List.getElem?_zipIdx, Nat.zero_add, Option.map_eq_some_iff]
    constructor
    · rintro ⟨a, ha, rfl⟩
      exact ⟨ha, rfl⟩
    · rintro ⟨ha, rfl⟩
      exact ⟨numbered.1, ha, rfl⟩
  rw [mapM_eq_error_iff]
  constructor
  · rintro ⟨index, ⟨a, number⟩, ha, he, hbefore⟩
    obtain ⟨ha, rfl⟩ := hget.mp ha
    exact ⟨index, a, ha, he, fun i hi other ho ↦ hbefore i hi (other, i) (hget.mpr ⟨ho, rfl⟩)⟩
  · rintro ⟨index, a, ha, he, hbefore⟩
    refine ⟨index, (a, index), hget.mpr ⟨ha, rfl⟩, he, fun i hi ⟨other, number⟩ ho ↦ ?_⟩
    obtain ⟨ho, rfl⟩ := hget.mp ho
    exact hbefore i hi other ho

end LeagueStandings
