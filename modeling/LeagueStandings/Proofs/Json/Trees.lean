import LeagueStandings.Json.Tree

/-!
# Reading the tokens of a tree

A tree determines its tokens, and the reader of tokens gives the tree back (`ofTokens?_tokens`),
provided that its words mean something. The reader keeps a stack of open containers, and the
statement that goes through by induction is about any such stack: after the tokens of a value the
reader is where it is after completing the value (`foldlM_step_tokens`).

Lists and records are enclosed in the same way, with commas between what they hold. What they hold
differs: the pieces of a list are its items, those of a record are its keys with their items.
-/

namespace LeagueStandings.JsonTree

open JsonToken

/-- What follows a piece: the other pieces, each behind a comma, and the closing bracket. -/
def following (closing : JsonToken) (pieces : List (List JsonToken)) : List JsonToken :=
  pieces.flatMap (.comma :: ·) ++ [closing]

/-- The pieces with commas between them and brackets around them. -/
def enclosed (opening closing : JsonToken) : List (List JsonToken) → List JsonToken
  | [] => [opening, closing]
  | piece :: pieces => opening :: (piece ++ following closing pieces)

theorem following_cons (closing : JsonToken) (piece : List JsonToken)
    (pieces : List (List JsonToken)) :
    following closing (piece :: pieces) = .comma :: (piece ++ following closing pieces) := by
  rw [following, List.flatMap_cons, List.append_assoc]
  rfl

mutual

/-- The tokens of a tree. -/
def tokens : JsonTree → List JsonToken
  | word spelling => [.word spelling]
  | text spelling => [.text spelling]
  | list items => enclosed .openList .closeList (itemTokens items)
  | record fields => enclosed .openRecord .closeRecord (fieldTokens fields)

/-- The tokens of each item. -/
def itemTokens : List JsonTree → List (List JsonToken)
  | [] => []
  | item :: rest => tokens item :: itemTokens rest

/-- The tokens of each field. -/
def fieldTokens : List (List UInt8 × JsonTree) → List (List JsonToken)
  | [] => []
  | (key, item) :: rest => (.text key :: .colon :: tokens item) :: fieldTokens rest

end

/-- Every word of the tree means something. -/
inductive Meaningful : JsonTree → Prop
  | word {spelling : List UInt8} : isWord spelling = true → Meaningful (.word spelling)
  | text (spelling : List UInt8) : Meaningful (.text spelling)
  | list {items : List JsonTree} : (∀ item ∈ items, Meaningful item) → Meaningful (.list items)
  | record {fields : List (List UInt8 × JsonTree)} : (∀ field ∈ fields, Meaningful field.2) →
      Meaningful (.record fields)

theorem exists_tokens_eq_cons (t : JsonTree) :
    ∃ token rest, t.tokens = token :: rest ∧ token ≠ .closeList := by
  have henclosed : ∀ {opening closing : JsonToken} (pieces : List (List JsonToken)),
      opening ≠ .closeList →
        ∃ token rest, enclosed opening closing pieces = token :: rest ∧ token ≠ .closeList := by
    intro opening closing pieces hne
    cases pieces with
    | nil => exact ⟨opening, _, rfl, hne⟩
    | cons piece pieces => exact ⟨opening, _, rfl, hne⟩
  cases t with
  | word spelling => exact ⟨_, _, rfl, by simp⟩
  | text spelling => exact ⟨_, _, rfl, by simp⟩
  | list items => exact henclosed _ (by simp)
  | record fields => exact henclosed _ (by simp)

/-- The tokens of the tree are read as the tree, whatever is open around it. -/
def ReadsBack (t : JsonTree) : Prop :=
  ∀ around, t.tokens.foldlM Reader.step (.value around) = some (Reader.complete t around)

/-- The first item of a list is read where the list was opened. -/
private theorem foldlM_step_opened (t : JsonTree) (around : List Frame) :
    t.tokens.foldlM Reader.step (.opened around) =
      t.tokens.foldlM Reader.step (.value (.list [] :: around)) := by
  obtain ⟨token, rest, htokens, hne⟩ := exists_tokens_eq_cons t
  have hstep : Reader.step (.opened around) token =
      Reader.step (.value (.list [] :: around)) token := by
    cases token with
    | closeList => exact absurd rfl hne
    | _ => rfl
  rw [htokens, List.foldlM_cons, List.foldlM_cons, hstep]

private theorem foldlM_step_items {items : List JsonTree} (h : ∀ item ∈ items, ReadsBack item)
    (before : List JsonTree) (around : List Frame) :
    (following .closeList (itemTokens items)).foldlM Reader.step (.item before around) =
      some (Reader.complete (.list (before.reverse ++ items)) around) := by
  induction items generalizing before with
  | nil =>
    rw [List.append_nil]
    rfl
  | cons item items ih =>
    have hitem := h item List.mem_cons_self (.list before :: around)
    rw [itemTokens, following_cons, List.foldlM_cons]
    change List.foldlM Reader.step (.value (.list before :: around)) _ = _
    rw [List.foldlM_append, hitem]
    change List.foldlM Reader.step (.item (item :: before) around) _ = _
    rw [ih (fun other ho ↦ h other (List.mem_cons_of_mem _ ho)), List.reverse_cons,
      List.append_assoc]
    rfl

private theorem foldlM_step_fields {fields : List (List UInt8 × JsonTree)}
    (h : ∀ field ∈ fields, ReadsBack field.2) (before : List (List UInt8 × JsonTree))
    (around : List Frame) :
    (following .closeRecord (fieldTokens fields)).foldlM Reader.step (.field before around) =
      some (Reader.complete (.record (before.reverse ++ fields)) around) := by
  induction fields generalizing before with
  | nil =>
    rw [List.append_nil]
    rfl
  | cons field fields ih =>
    obtain ⟨key, item⟩ := field
    have hitem := h (key, item) List.mem_cons_self (.record before key :: around)
    rw [fieldTokens, following_cons, List.foldlM_cons]
    change List.foldlM Reader.step (.value (.record before key :: around))
      (item.tokens ++ following .closeRecord (fieldTokens fields)) = _
    rw [List.foldlM_append, hitem]
    change List.foldlM Reader.step (.field ((key, item) :: before) around) _ = _
    rw [ih (fun other ho ↦ h other (List.mem_cons_of_mem _ ho)), List.reverse_cons,
      List.append_assoc]
    rfl

/-- **Reading back.** After the tokens of a value the reader has completed it. -/
theorem foldlM_step_tokens {t : JsonTree} (h : t.Meaningful) : t.ReadsBack := by
  induction h with
  | word hword =>
    intro around
    rw [tokens, List.foldlM_cons, Reader.step, Reader.start, if_pos hword]
    rfl
  | text spelling => exact fun _ ↦ rfl
  | @list items _ ih =>
    intro around
    cases items with
    | nil => rfl
    | cons item items =>
      -- The first item is read right after the bracket, the others behind their commas.
      have hitem := ih item List.mem_cons_self (.list [] :: around)
      rw [tokens, itemTokens, enclosed, List.foldlM_cons]
      change List.foldlM Reader.step (.opened around) _ = _
      rw [List.foldlM_append, foldlM_step_opened, hitem]
      exact foldlM_step_items (fun other ho ↦ ih other (List.mem_cons_of_mem _ ho)) [item] around
  | @record fields _ ih =>
    intro around
    cases fields with
    | nil => rfl
    | cons field fields =>
      obtain ⟨key, item⟩ := field
      have hitem := ih (key, item) List.mem_cons_self (.record [] key :: around)
      rw [tokens, fieldTokens, enclosed, List.foldlM_cons]
      change List.foldlM Reader.step (.value (.record [] key :: around))
        (item.tokens ++ following .closeRecord (fieldTokens fields)) = _
      rw [List.foldlM_append, hitem]
      exact foldlM_step_fields (fun other ho ↦ ih other (List.mem_cons_of_mem _ ho)) [(key, item)]
        around

theorem ofTokens?_tokens {t : JsonTree} (h : t.Meaningful) : ofTokens? t.tokens = some t := by
  rw [ofTokens?, foldlM_step_tokens h []]
  rfl

end LeagueStandings.JsonTree
