import LeagueStandings.Proofs.Json.Decoding

/-!
# Reading any value back

The cells of a table are any JSON values, and the decoder of values reads each of them from its own
text, within two limits. It sorts the keys of an object and keeps one field of each key, so that
only an object with sorted keys comes back as it was (`HasSortedKeys`). And it follows containers
only so deep (`nesting`). What it finds in the place of a number is what is read from the digits of
this number (`Json.reread`).
-/

namespace LeagueStandings

namespace Json

mutual

/-- How many containers stand one in another at the deepest place of the value. -/
def nesting : Json → Nat
  | arr items => nestingOfItems items + 1
  | obj fields => nestingOfFields fields + 1
  | _ => 0

/-- The deepest nesting among the items of an array. -/
def nestingOfItems : List Json → Nat
  | [] => 0
  | item :: rest => max (nesting item) (nestingOfItems rest)

/-- The deepest nesting among the fields of an object. -/
def nestingOfFields : List (String × Json) → Nat
  | [] => 0
  | (_, value) :: rest => max (nesting value) (nestingOfFields rest)

end

theorem nesting_le_nestingOfItems {items : List Json} {item : Json} (h : item ∈ items) :
    item.nesting ≤ nestingOfItems items := by
  induction items with
  | nil => cases h
  | cons other items ih =>
    rw [nestingOfItems]
    rcases List.mem_cons.mp h with rfl | h
    · exact Nat.le_max_left _ _
    · exact Nat.le_trans (ih h) (Nat.le_max_right _ _)

theorem nesting_le_nestingOfFields {fields : List (String × Json)} {field : String × Json}
    (h : field ∈ fields) : field.2.nesting ≤ nestingOfFields fields := by
  induction fields with
  | nil => cases h
  | cons other fields ih =>
    rw [nestingOfFields]
    rcases List.mem_cons.mp h with rfl | h
    · exact Nat.le_max_left _ _
    · exact Nat.le_trans (ih h) (Nat.le_max_right _ _)

/-- In every object of the value the keys ascend, and so none is repeated. -/
inductive HasSortedKeys : Json → Prop
  | null : HasSortedKeys null
  | bool (value : Bool) : HasSortedKeys (bool value)
  | num (value : JsonNumber) : HasSortedKeys (num value)
  | str (value : String) : HasSortedKeys (str value)
  | arr {items : List Json} : (∀ item ∈ items, HasSortedKeys item) → HasSortedKeys (arr items)
  | obj {fields : List (String × Json)} : fields.Pairwise (fun a b ↦ a.1 < b.1) →
      (∀ field ∈ fields, HasSortedKeys field.2) → HasSortedKeys (obj fields)

mutual

/-- The value with the numbers that are read from the digits of its numbers. -/
def reread : Json → Json
  | num value => num value.reread
  | arr items => arr (rereadItems items)
  | obj fields => obj (rereadFields fields)
  | value => value

/-- The items of an array with the numbers that are read. -/
def rereadItems : List Json → List Json
  | [] => []
  | item :: rest => reread item :: rereadItems rest

/-- The fields of an object with the numbers that are read. -/
def rereadFields : List (String × Json) → List (String × Json)
  | [] => []
  | (key, value) :: rest => (key, reread value) :: rereadFields rest

end

theorem map_fst_rereadFields (fields : List (String × Json)) :
    (rereadFields fields).map Prod.fst = fields.map Prod.fst := by
  induction fields with
  | nil => rfl
  | cons field fields ih => rw [rereadFields, List.map_cons, List.map_cons, ih]

/-! ## Sorting sorted fields -/

theorem insertField_of_forall_lt {key : String} {fields : List (String × Json)}
    (h : ∀ field ∈ fields, field.1 < key) (value : Json) :
    insertField key value fields = fields ++ [(key, value)] := by
  induction fields with
  | nil => rfl
  | cons field fields ih =>
    have hlt : field.1 < key := h field List.mem_cons_self
    have hne : key ≠ field.1 := fun heq ↦ String.lt_irrefl key (heq ▸ hlt)
    rw [insertField, if_neg (String.lt_asymm hlt), if_neg hne,
      ih fun other ho ↦ h other (List.mem_cons_of_mem _ ho)]
    rfl

theorem ofFields_of_sorted {fields : List (String × Json)}
    (h : fields.Pairwise fun a b ↦ a.1 < b.1) : ofFields fields = obj fields := by
  -- The fields that are done stay in front, and the keys of the others are above theirs.
  have hfold : ∀ done : List (String × Json),
      (done ++ fields).Pairwise (fun a b ↦ a.1 < b.1) →
      fields.foldl (fun done field ↦ insertField field.1 field.2 done) done = done ++ fields := by
    clear h
    induction fields with
    | nil => exact fun done _ ↦ (List.append_nil done).symm
    | cons field fields ih =>
      intro done hsorted
      have hlast : ∀ other ∈ done, other.1 < field.1 := fun other ho ↦
        (List.pairwise_append.mp hsorted).2.2 other ho field List.mem_cons_self
      rw [List.foldl_cons, insertField_of_forall_lt hlast, ih, List.append_assoc,
        List.singleton_append]
      rwa [List.append_assoc, List.singleton_append]
  rw [ofFields, hfold [] h, List.nil_append]

end Json

/-! ## Reading -/

namespace JsonTree

open Json

private theorem values?_treeItems {depth : Nat} {items : List Json}
    (h : ∀ item ∈ items, value? depth item.tree = some item.reread) :
    values? depth (treeItems items) = some (rereadItems items) := by
  induction items with
  | nil => rfl
  | cons item items ih =>
    rw [treeItems, values?, h item List.mem_cons_self,
      ih fun other ho ↦ h other (List.mem_cons_of_mem _ ho)]
    rfl

private theorem valueFields?_treeFields {depth : Nat} {fields : List (String × Json)}
    (h : ∀ field ∈ fields, value? depth field.2.tree = some field.2.reread) :
    valueFields? depth (treeFields fields) = some (rereadFields fields) := by
  induction fields with
  | nil => rfl
  | cons field fields ih =>
    rw [treeFields, valueFields?, JsonText.decode?_escaped, h field List.mem_cons_self,
      ih fun other ho ↦ h other (List.mem_cons_of_mem _ ho)]
    rfl

/-- **Reading a value back.** A value with sorted keys is read as itself but for its numbers, if as
many containers may be opened as it has one in another. -/
theorem value?_tree {value : Json} (h : value.HasSortedKeys) {depth : Nat}
    (hdepth : value.nesting ≤ depth) : value? depth value.tree = some value.reread := by
  induction h generalizing depth with
  | null => exact isWordOf_null.value
  | bool value => exact (isWordOf_bool value).value
  | num value => exact (isWordOf_num value).value
  | str value =>
    rw [tree, value?, JsonText.decode?_escaped]
    rfl
  | @arr items _ ih =>
    rw [nesting] at hdepth
    obtain ⟨inner, rfl⟩ : ∃ inner, depth = inner + 1 := ⟨depth - 1, by omega⟩
    have hitems : values? inner (treeItems items) = some (rereadItems items) := by
      refine values?_treeItems fun item hitem ↦ ih item hitem ?_
      have hle := nesting_le_nestingOfItems hitem
      omega
    rw [tree, value?, hitems, Option.map_some, reread]
  | @obj fields hsorted _ ih =>
    rw [nesting] at hdepth
    obtain ⟨inner, rfl⟩ : ∃ inner, depth = inner + 1 := ⟨depth - 1, by omega⟩
    have hfields : valueFields? inner (treeFields fields) = some (rereadFields fields) := by
      refine valueFields?_treeFields fun field hfield ↦ ih field hfield ?_
      have hle := nesting_le_nestingOfFields hfield
      omega
    have hkeys := List.pairwise_map.mpr hsorted
    rw [← map_fst_rereadFields, List.pairwise_map] at hkeys
    rw [tree, value?, hfields, Option.map_some, ofFields_of_sorted hkeys, reread]

end JsonTree

end LeagueStandings
