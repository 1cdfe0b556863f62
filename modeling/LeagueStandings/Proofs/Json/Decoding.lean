import LeagueStandings.Proofs.Binary64.Bounds
import LeagueStandings.Proofs.Json.Writing
import LeagueStandings.Proofs.Lookup

/-!
# Decoding what was written

What each decoder reads from the tree of a written value, whatever the depth. A decoder of strings
or integers reads the value that was written, and a decoder of binary64 numbers reads a finite
number as `Binary64.reread` says. A number that is not finite was written as `null`, which no
decoder of numbers reads. A record that was written with known keys, each once, has its fields
looked up by their keys.
-/

namespace LeagueStandings

variable {α β : Type}

/-! ## Lists -/

theorem mapM_ite {p : α → Prop} [DecidablePred p] {f : α → β} (l : List α) :
    (l.mapM fun a ↦ if p a then some (f a) else none) =
      if ∀ a ∈ l, p a then some (l.map f) else none := by
  induction l with
  | nil => rw [List.mapM_nil, if_pos fun a h ↦ absurd h List.not_mem_nil]; rfl
  | cons a l ih =>
    rw [List.mapM_cons, ih]
    by_cases ha : p a
    · by_cases hl : ∀ b ∈ l, p b
      · rw [if_pos ha, if_pos hl, if_pos (List.forall_mem_cons.mpr ⟨ha, hl⟩)]
        rfl
      · rw [if_pos ha, if_neg hl, if_neg fun h ↦ hl (List.forall_mem_cons.mp h).2]
        rfl
    · rw [if_neg ha, if_neg fun h ↦ ha (List.forall_mem_cons.mp h).1]
      rfl

theorem exists_of_mem_mapM {f : α → Option β} {l : List α} {results : List β}
    (h : l.mapM f = some results) {b : β} (hb : b ∈ results) : ∃ a ∈ l, f a = some b := by
  induction l generalizing results with
  | nil =>
    cases h
    cases hb
  | cons a l ih =>
    rw [List.mapM_cons] at h
    obtain ⟨first, hfirst, h⟩ := Option.bind_eq_some_iff.mp h
    obtain ⟨rest, hrest, h⟩ := Option.bind_eq_some_iff.mp h
    cases h
    rcases List.mem_cons.mp hb with rfl | hb
    · exact ⟨a, List.mem_cons_self, hfirst⟩
    · obtain ⟨a', ha', hb⟩ := ih hrest hb
      exact ⟨a', List.mem_cons_of_mem _ ha', hb⟩

theorem mapM_eq_some_of_forall₂ {f : α → Option β} {l : List α} {results : List β}
    (h : List.Forall₂ (fun a b ↦ f a = some b) l results) : l.mapM f = some results := by
  induction h with
  | nil => rfl
  | cons hfirst _ ih =>
    rw [List.mapM_cons, hfirst, ih]
    rfl

theorem lookup_map_snd (f : α → β) (fields : List (String × α)) (key : String) :
    (fields.map fun field ↦ (field.1, f field.2)).lookup key = (fields.lookup key).map f := by
  induction fields with
  | nil => rfl
  | cons field fields ih =>
    rw [List.map_cons, List.lookup_cons, List.lookup_cons, ih]
    cases key == field.1 <;> rfl

/-! ## Filled slots -/

/-- The fields of the slots that hold something. -/
def filled (slots : List (String × Option α)) : List (String × α) :=
  slots.flatMap fun slot ↦ slot.2.toList.map (slot.1, ·)

theorem sublist_map_filled (slots : List (String × Option α)) :
    ((filled slots).map Prod.fst).Sublist (slots.map Prod.fst) := by
  induction slots with
  | nil => exact .slnil
  | cons slot slots ih =>
    obtain ⟨key, _ | a⟩ := slot
    · exact ih.cons _
    · exact ih.cons_cons _

private theorem lookup_filled_of_not_mem {slots : List (String × Option α)} {key : String}
    (h : key ∉ slots.map Prod.fst) : (filled slots).lookup key = none := by
  refine List.lookup_eq_none_iff.mpr fun field hfield ↦ bne_iff_ne.mpr ?_
  rintro rfl
  exact h ((sublist_map_filled slots).subset (List.mem_map_of_mem hfield))

theorem lookup_filled {slots : List (String × Option α)} (hnodup : (slots.map Prod.fst).Nodup)
    {key : String} {a? : Option α} (h : (key, a?) ∈ slots) : (filled slots).lookup key = a? := by
  induction slots with
  | nil => cases h
  | cons slot slots ih =>
    obtain ⟨hfresh, hnodup⟩ := List.nodup_cons.mp hnodup
    rw [filled, List.flatMap_cons, ← filled, List.lookup_append]
    rcases List.mem_cons.mp h with rfl | h
    · rw [lookup_filled_of_not_mem hfresh, Option.or_none]
      cases a? with
      | none => rfl
      | some a => exact List.lookup_cons_self
    · have hne : key ≠ slot.1 := by
        rintro rfl
        exact hfresh (List.mem_map.mpr ⟨_, h, rfl⟩)
      have hmiss : (slot.2.toList.map (slot.1, ·)).lookup key = none := by
        refine List.lookup_eq_none_iff.mpr fun field hfield ↦ bne_iff_ne.mpr ?_
        obtain ⟨a, -, rfl⟩ := List.mem_map.mp hfield
        exact hne
      rw [hmiss, Option.none_or, ih hnodup h]

/-! ## Numbers that are read -/

theorem JsonNumber.isFinite_binary64 (value : JsonNumber) : value.binary64.isFinite = true := by
  cases value with
  | integer value fitsWord =>
    obtain ⟨hge, hlt⟩ := fitsWord
    exact Binary64.isFinite_ofInt (by omega)
  | real negative magnitude => rfl

/-! ## Scalars -/

namespace JsonTree

theorem wordValue?_of_isNull {spelling : List UInt8} (h : (word spelling).isNull = true) :
    wordValue? spelling = some .null :=
  if_pos (beq_iff_eq.mp h)

theorem number?_num (value : JsonNumber) :
    (Json.num value).tree.number? = some value.reread := by
  rw [Json.tree, number?, (Json.isWordOf_num value).value]
  all_goals exact nofun

theorem isNull_num (value : JsonNumber) : (Json.num value).tree.isNull = false := by
  refine Bool.eq_false_iff.mpr fun h ↦ ?_
  have hvalue := (Json.isWordOf_num value).value
  rw [wordValue?_of_isNull h] at hvalue
  cases hvalue

/-- The decoder reads each of the values that are kept as the function says, and the others were
written as `null`. -/
structure Reads (decoder : Decoder α) (write : α → Json) (keeps : α → Bool) (back : α → α) :
    Prop where
  read : ∀ depth a, keeps a = true → decoder depth (write a).tree = some (back a)
  isNull : ∀ a, (write a).tree.isNull = !keeps a
  refuse : ∀ depth a, keeps a = false → decoder depth (write a).tree = none

theorem reads_string? : Reads string? .str (fun _ ↦ true) id where
  read _ text _ := JsonText.decode?_escaped text
  isNull _ := rfl
  refuse _ _ h := nomatch h

theorem reads_int64? : Reads int64? .int64 (fun _ ↦ true) id where
  read _ n _ := by
    rw [int64?, Json.int64, number?_num, JsonNumber.ofInt64, JsonNumber.reread_integer,
      Option.bind_some]
    exact Integer64.ofInt?_toInt n
  isNull n := isNull_num (.ofInt64 n)
  refuse _ _ h := nomatch h

theorem reads_binary64? : Reads binary64? Json.binary64 Binary64.isFinite Binary64.reread where
  read _ x h := by
    cases x with
    | finite negative magnitude =>
      rw [binary64?, Json.binary64, number?_num]
      rfl
    | nan => cases h
    | infinite negative => cases h
  isNull x := by
    cases x with
    | finite negative magnitude => exact isNull_num (.real negative magnitude)
    | nan => rfl
    | infinite negative => rfl
  refuse _ x h := by
    cases x with
    | finite negative magnitude => cases h
    | nan => rfl
    | infinite negative => rfl

theorem isFinite_of_binary64? {depth : Nat} {t : JsonTree} {x : Binary64}
    (h : binary64? depth t = some x) : x.isFinite = true := by
  obtain ⟨n, -, rfl⟩ := Option.map_eq_some_iff.mp h
  exact n.isFinite_binary64

/-! ## Fields -/

variable {decoder : Decoder α} {write : α → Json} {keeps : α → Bool} {back : α → α} {depth : Nat}
  {key : String} {fields : List (String × JsonTree)}

theorem Reads.nullable? (h : Reads decoder write keeps back) (depth : Nat) (a : α) :
    JsonTree.nullable? decoder depth (write a).tree =
      some (((some a).filter keeps).map back) := by
  rw [JsonTree.nullable?, h.isNull, Option.filter_some]
  cases hkeeps : keeps a with
  | true => rw [h.read depth a hkeeps]; rfl
  | false => rfl

theorem Reads.required? (h : Reads decoder write keeps back) {a : α}
    (hlookup : fields.lookup key = some (write a).tree) :
    JsonTree.required? decoder depth fields key = ((some a).filter keeps).map back := by
  rw [JsonTree.required?, hlookup, Option.bind_some, Option.filter_some]
  split
  · next hkeeps => exact h.read depth a hkeeps
  · next hkeeps => exact h.refuse depth a (Bool.eq_false_iff.mpr hkeeps)

theorem optional?_of_lookup_eq_none (h : fields.lookup key = none) :
    optional? decoder depth fields key = some none := by
  rw [optional?, defaulted?, h]

theorem optional?_of_lookup_eq_some {t : JsonTree} (h : fields.lookup key = some t) :
    optional? decoder depth fields key = nullable? decoder depth t := by
  rw [optional?, defaulted?, h]

theorem exists_of_optional?_eq_some {a : α}
    (h : optional? decoder depth fields key = some (some a)) : ∃ t, decoder depth t = some a := by
  cases hlookup : fields.lookup key with
  | none =>
    rw [optional?_of_lookup_eq_none hlookup] at h
    cases h
  | some t =>
    rw [optional?_of_lookup_eq_some hlookup, JsonTree.nullable?] at h
    split at h
    · cases h
    · obtain ⟨read, hread, heq⟩ := Option.map_eq_some_iff.mp h
      exact ⟨t, Option.some.inj heq ▸ hread⟩

/-! ## Containers -/

theorem list?_arr (decoder : Decoder α) (depth : Nat) (items : List Json) :
    list? decoder (depth + 1) (Json.arr items).tree =
      items.mapM fun item ↦ decoder depth item.tree := by
  rw [Json.tree, list?, Json.treeItems_eq, List.mapM_map]
  rfl

/-- The fields of a written record are those with known keys, if none of these is repeated. -/
private theorem fields?_obj_eq (keys : List String) (fields : List (String × Json)) :
    (Json.obj fields).tree.fields? keys =
      let known := fields.filter fun field ↦ keys.contains field.1
      if (known.map Prod.fst).Nodup then
        some (known.map fun field ↦ (field.1, field.2.tree))
      else none := by
  have hread : ((Json.treeFields fields).mapM fun field ↦
      (JsonText.decode? field.1).map (·, field.2)) =
        some (fields.map fun field ↦ (field.1, field.2.tree)) := by
    rw [Json.treeFields_eq, List.mapM_map]
    have hfield : ∀ field : String × Json,
        (JsonText.decode? (field.1.toList.flatMap JsonText.escapedBytes)).map (·, field.2.tree) =
          some (field.1, field.2.tree) := by
      intro field
      rw [JsonText.decode?_escaped]
      rfl
    simp only [Function.comp_def, hfield]
    exact List.mapM_pure
  rw [Json.tree, fields?, hread, Option.bind_eq_bind, Option.bind_some]
  dsimp only
  rw [List.filter_map, List.map_map]
  rfl

/-- **The fields of a written record** are all read if their keys are known and none is repeated. -/
theorem fields?_obj {keys : List String} {fields : List (String × Json)}
    (hkeys : (fields.map Prod.fst).Sublist keys) (hnodup : keys.Nodup) :
    (Json.obj fields).tree.fields? keys =
      some (fields.map fun field ↦ (field.1, field.2.tree)) := by
  have hknown : fields.filter (fun field ↦ keys.contains field.1) = fields :=
    List.filter_eq_self.mpr fun field hfield ↦
      List.contains_iff_mem.mpr (hkeys.subset (List.mem_map_of_mem hfield))
  rw [fields?_obj_eq]
  dsimp only
  rw [hknown, if_pos (hnodup.sublist hkeys)]

theorem fields?_obj_of_disjoint {keys : List String} {fields : List (String × Json)}
    (h : ∀ field ∈ fields, field.1 ∉ keys) : (Json.obj fields).tree.fields? keys = some [] := by
  have hknown : fields.filter (fun field ↦ keys.contains field.1) = [] :=
    List.filter_eq_nil_iff.mpr fun field hfield hcontains ↦
      h field hfield (List.contains_iff_mem.mp hcontains)
  rw [fields?_obj_eq]
  dsimp only
  rw [hknown]
  exact if_pos List.nodup_nil

/-- **The fields of a written record** whose known keys are not repeated: they are found under
their keys, whatever their order and whatever other fields stand between them. -/
theorem exists_fields?_obj {keys : List String} {fields known : List (String × Json)}
    (h : (fields.filter fun field ↦ keys.contains field.1).Perm known)
    (hnodup : (known.map Prod.fst).Nodup) :
    ∃ read, (Json.obj fields).tree.fields? keys = some read ∧
      ∀ key, read.lookup key = (known.lookup key).map Json.tree := by
  have hnodup' := (h.map Prod.fst).nodup_iff.mpr hnodup
  have hread := fields?_obj_eq keys fields
  dsimp only at hread
  rw [if_pos hnodup'] at hread
  refine ⟨_, hread, fun key ↦ ?_⟩
  rw [lookup_map_snd, lookup_eq_of_perm h hnodup']

theorem record?_obj {keys : List String}
    (decoder : (depth : Nat) → List (String × JsonTree) → Option α) (depth : Nat)
    {fields : List (String × Json)} (hkeys : (fields.map Prod.fst).Sublist keys)
    (hnodup : keys.Nodup) :
    record? keys decoder (depth + 1) (Json.obj fields).tree =
      decoder depth (fields.map fun field ↦ (field.1, field.2.tree)) := by
  rw [record?, fields?_obj hkeys hnodup, Option.bind_some]

end JsonTree

end LeagueStandings
