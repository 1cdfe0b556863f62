import LeagueStandings.Proofs.Json.Strings
import LeagueStandings.Proofs.Json.Trees
import LeagueStandings.Proofs.Json.Words
import Mathlib.Data.List.Forall2

/-!
# The tree of a written value

Writing a value and reading the shape of the text gives a tree that is known beforehand
(`ofBytes?_pretty`): a word for each number, `null` and truth value, with its bytes as written, and
the escaped bytes of each string.

The proof follows the writer. Its characters scan to the tokens of the tree (`Spells`), and between
two values stand brackets, commas, colons and line breaks, which end a word in front of them
(`Delimits`). Lists and records are written alike, in the layout with one item a line and in the one
without any blank, so one lemma serves them all (`spells_enclosed`), and the two layouts have the
same tree (`ofBytes?_compact`).
-/

namespace LeagueStandings

namespace JsonToken

/-! ## Characters and tokens -/

/-- The characters scan to the tokens, where a word at their end is taken as over. -/
def Spells (cs : List Char) (tokens : List JsonToken) : Prop :=
  Scans (cs.flatMap String.utf8EncodeChar) tokens

/-- The characters end a word in front of them and scan to the tokens. -/
structure Delimits (cs : List Char) (tokens : List JsonToken) : Prop where
  closes : Closes (cs.flatMap String.utf8EncodeChar) tokens
  endsWord : ∃ b rest, cs.flatMap String.utf8EncodeChar = b :: rest ∧ Scanner.endsWord b = true

variable {cs ds : List Char} {tokens more : List JsonToken}

theorem Delimits.spells (h : Delimits cs tokens) : Spells cs tokens := h.closes.scans

theorem Delimits.append_spells (h : Delimits cs tokens) (hmore : Spells ds more) :
    Spells (cs ++ ds) (tokens ++ more) := by
  rw [Spells, List.flatMap_append]
  exact h.closes.append_scans hmore

theorem Delimits.append_closes (h : Delimits cs tokens)
    (hmore : Closes (ds.flatMap String.utf8EncodeChar) more) :
    Delimits (cs ++ ds) (tokens ++ more) := by
  obtain ⟨b, rest, heq, hb⟩ := h.endsWord
  refine ⟨?_, b, rest ++ ds.flatMap String.utf8EncodeChar, ?_, hb⟩
  · rw [List.flatMap_append]
    exact h.closes.append hmore
  · rw [List.flatMap_append, heq, List.cons_append]

theorem Delimits.append (h : Delimits cs tokens) (hmore : Delimits ds more) :
    Delimits (cs ++ ds) (tokens ++ more) := h.append_closes hmore.closes

theorem Spells.append (h : Spells cs tokens) (hmore : Delimits ds more) :
    Closes ((cs ++ ds).flatMap String.utf8EncodeChar) (tokens ++ more) := by
  obtain ⟨b, rest, heq, hb⟩ := hmore.endsWord
  have hcloses := hmore.closes
  rw [heq] at hcloses
  rw [List.flatMap_append, heq]
  exact Scans.append_closes h hb hcloses

/-! ## What stands between values -/

private theorem delimits_punctuation {c : Char} {b : UInt8} {token : JsonToken}
    (hc : String.utf8EncodeChar c = [b]) (hspace : isSpace b = false) (hquote : b ≠ 0x22)
    (h : punctuation? b = some token) : Delimits [c] [token] := by
  have hbytes : [c].flatMap String.utf8EncodeChar = [b] := by rw [List.flatMap_singleton, hc]
  refine ⟨?_, b, [], hbytes, ?_⟩
  · rw [hbytes]
    exact closes_punctuation hspace hquote h
  · rw [Scanner.endsWord, h]
    exact Bool.or_true _

theorem delimits_openList : Delimits ['['] [.openList] :=
  delimits_punctuation rfl rfl (by decide) rfl

theorem delimits_closeList : Delimits [']'] [.closeList] :=
  delimits_punctuation rfl rfl (by decide) rfl

theorem delimits_openRecord : Delimits ['{'] [.openRecord] :=
  delimits_punctuation rfl rfl (by decide) rfl

theorem delimits_closeRecord : Delimits ['}'] [.closeRecord] :=
  delimits_punctuation rfl rfl (by decide) rfl

theorem delimits_comma : Delimits [','] [.comma] :=
  delimits_punctuation rfl rfl (by decide) rfl

theorem delimits_colon : Delimits [':'] [.colon] :=
  delimits_punctuation rfl rfl (by decide) rfl

private theorem delimits_blanks {cs : List Char} (hne : cs ≠ [])
    (h : ∀ c ∈ cs, c = '\n' ∨ c = ' ') : Delimits cs [] := by
  have hspace : ∀ c ∈ cs, ∃ b, String.utf8EncodeChar c = [b] ∧ isSpace b = true := by
    intro c hc
    rcases h c hc with rfl | rfl
    · exact ⟨0x0A, rfl, rfl⟩
    · exact ⟨0x20, rfl, rfl⟩
  refine ⟨closes_spaces fun b hb ↦ ?_, ?_⟩
  · obtain ⟨c, hc, hb⟩ := List.mem_flatMap.mp hb
    obtain ⟨b', hbytes, hb'⟩ := hspace c hc
    rw [hbytes, List.mem_singleton] at hb
    exact hb ▸ hb'
  · obtain ⟨c, rest, rfl⟩ := List.exists_cons_of_ne_nil hne
    obtain ⟨b, hbytes, hb⟩ := hspace c List.mem_cons_self
    refine ⟨b, rest.flatMap String.utf8EncodeChar, ?_, ?_⟩
    · rw [List.flatMap_cons, hbytes]
      rfl
    · rw [Scanner.endsWord, hb]
      rfl

theorem delimits_lineBreak (level : Nat) : Delimits (Json.lineBreak level) [] := by
  refine delimits_blanks (List.cons_ne_nil _ _) fun c hc ↦ ?_
  rcases List.mem_cons.mp hc with rfl | hblank
  · exact .inl rfl
  · exact .inr (List.eq_of_mem_replicate hblank)

theorem delimits_blank : Delimits [' '] [] :=
  delimits_blanks (by decide) fun _ hc ↦ .inr (List.mem_singleton.mp hc)

theorem delimits_quote (text : String) :
    Delimits (Json.quote text) [.text (text.toList.flatMap JsonText.escapedBytes)] where
  closes := by
    rw [JsonText.flatMap_quote]
    exact JsonText.closes_quoted text
  endsWord := ⟨0x22, _, JsonText.flatMap_quote text, rfl⟩

/-! ## Blocks -/

variable {pieces : List (List Char)} {lists : List (List JsonToken)}

private theorem separated_cons (separator piece : List Char) (pieces : List (List Char)) :
    Json.separated separator (piece :: pieces) = piece ++ pieces.flatMap (separator ++ ·) := by
  induction pieces generalizing piece with
  | nil => rw [Json.separated, List.flatMap_nil, List.append_nil]
  | cons next pieces ih =>
    rw [Json.separated, ih, List.flatMap_cons, List.append_assoc]
    · simp only [List.append_assoc]
    · exact fun h ↦ List.cons_ne_nil _ _ h

/-- The pieces after the first stand behind commas, and the bracket behind them all. -/
private theorem delimits_following {separator ending : List Char} {closing : JsonToken}
    (hseparator : Delimits separator [.comma]) (hending : Delimits ending [closing])
    (h : List.Forall₂ Spells pieces lists) :
    Delimits (pieces.flatMap (separator ++ ·) ++ ending) (JsonTree.following closing lists) := by
  induction h with
  | nil => exact hending
  | cons hpiece _ ih =>
    rw [List.flatMap_cons, List.append_assoc, List.append_assoc, JsonTree.following_cons]
    exact hseparator.append_closes (hpiece.append ih)

/-- Pieces with a separator between them, which stands for a comma, and brackets around. -/
theorem spells_enclosed {opening separator ending : List Char} {openToken closeToken : JsonToken}
    (hopening : Delimits opening [openToken]) (hseparator : Delimits separator [.comma])
    (hending : Delimits ending [closeToken]) (h : List.Forall₂ Spells pieces lists) :
    Spells (opening ++ Json.separated separator pieces ++ ending)
      (JsonTree.enclosed openToken closeToken lists) := by
  cases h with
  | nil =>
    rw [Json.separated, List.append_nil]
    exact (hopening.append hending).spells
  | @cons piece tokens pieces lists hpiece hpieces =>
    -- Only a piece may end with a word, and a separator or the ending follows each of them.
    have hfollowing := delimits_following hseparator hending hpieces
    have hall := (hopening.append_closes (hpiece.append hfollowing)).spells
    rw [separated_cons, List.append_assoc, List.append_assoc]
    exact hall

/-- **A block** of pieces spells the pieces with commas between them and brackets around. -/
theorem spells_block {opening closing : Char} {openToken closeToken : JsonToken}
    (hopening : Delimits [opening] [openToken]) (hclosing : Delimits [closing] [closeToken])
    (level : Nat) (h : List.Forall₂ Spells pieces lists) :
    Spells (Json.block opening closing level pieces)
      (JsonTree.enclosed openToken closeToken lists) := by
  by_cases hempty : pieces = []
  · subst hempty
    cases h
    exact (hopening.append hclosing).spells
  · have hopens : Delimits (opening :: Json.lineBreak (level + 1)) [openToken] :=
      hopening.append (delimits_lineBreak _)
    have hseparator : Delimits (',' :: Json.lineBreak (level + 1)) [.comma] :=
      delimits_comma.append (delimits_lineBreak _)
    have hends : Delimits (Json.lineBreak level ++ [closing]) [closeToken] :=
      (delimits_lineBreak level).append hclosing
    have hall := spells_enclosed hopens hseparator hends h
    rw [Json.block, if_neg hempty, List.append_assoc]
    exact hall

end JsonToken

namespace Json

open JsonToken

/-! ## Values -/

mutual

/-- The tree of a value as it is written. -/
def tree : Json → JsonTree
  | arr items => .list (treeItems items)
  | obj fields => .record (treeFields fields)
  | str value => .text (value.toList.flatMap JsonText.escapedBytes)
  | value => .word (value.compactChars.flatMap String.utf8EncodeChar)

/-- The trees of the items of an array. -/
def treeItems : List Json → List JsonTree
  | [] => []
  | item :: rest => tree item :: treeItems rest

/-- The keys of an object, escaped, with the trees of its fields. -/
def treeFields : List (String × Json) → List (List UInt8 × JsonTree)
  | [] => []
  | (key, value) :: rest =>
    (key.toList.flatMap JsonText.escapedBytes, tree value) :: treeFields rest

end

theorem treeItems_eq (items : List Json) : treeItems items = items.map tree := by
  induction items with
  | nil => rfl
  | cons item items ih => rw [treeItems, ih, List.map_cons]

theorem treeFields_eq (fields : List (String × Json)) :
    treeFields fields = fields.map fun field ↦
      (field.1.toList.flatMap JsonText.escapedBytes, field.2.tree) := by
  induction fields with
  | nil => rfl
  | cons field fields ih => rw [treeFields, ih, List.map_cons]

variable {value : Json} {cs : List Char}

private theorem IsWordOf.spells (h : value.IsWordOf cs) :
    Spells cs (JsonTree.word (cs.flatMap String.utf8EncodeChar)).tokens :=
  scans_of_isWordChar h.ne_nil h.isWordChar

mutual

/-- **The characters of a value** spell the tokens of its tree. -/
theorem spells_prettyChars (level : Nat) :
    ∀ value : Json, Spells (value.prettyChars level) value.tree.tokens
  | null => isWordOf_null.spells
  | bool value => (isWordOf_bool value).spells
  | num value => (isWordOf_num value).spells
  | str value => (delimits_quote value).spells
  | arr items =>
    spells_block delimits_openList delimits_closeList level (spells_prettyItems (level + 1) items)
  | obj fields =>
    spells_block delimits_openRecord delimits_closeRecord level
      (spells_prettyFields (level + 1) fields)

theorem spells_prettyItems (level : Nat) : ∀ items : List Json,
    List.Forall₂ Spells (prettyItems level items) (JsonTree.itemTokens (treeItems items))
  | [] => .nil
  | item :: rest => .cons (spells_prettyChars level item) (spells_prettyItems level rest)

theorem spells_prettyFields (level : Nat) : ∀ fields : List (String × Json),
    List.Forall₂ Spells (prettyFields level fields) (JsonTree.fieldTokens (treeFields fields))
  | [] => .nil
  | (key, value) :: rest =>
    have hvalue := delimits_blank.append_spells (spells_prettyChars level value)
    .cons ((delimits_quote key).append_spells (delimits_colon.append_spells hvalue))
      (spells_prettyFields level rest)

end

mutual

theorem spells_compactChars : ∀ value : Json, Spells value.compactChars value.tree.tokens
  | null => isWordOf_null.spells
  | bool value => (isWordOf_bool value).spells
  | num value => (isWordOf_num value).spells
  | str value => (delimits_quote value).spells
  | arr items =>
    spells_enclosed delimits_openList delimits_comma delimits_closeList (spells_compactItems items)
  | obj fields =>
    spells_enclosed delimits_openRecord delimits_comma delimits_closeRecord
      (spells_compactFields fields)

theorem spells_compactItems : ∀ items : List Json,
    List.Forall₂ Spells (compactItems items) (JsonTree.itemTokens (treeItems items))
  | [] => .nil
  | item :: rest => .cons (spells_compactChars item) (spells_compactItems rest)

theorem spells_compactFields : ∀ fields : List (String × Json),
    List.Forall₂ Spells (compactFields fields) (JsonTree.fieldTokens (treeFields fields))
  | [] => .nil
  | (key, value) :: rest =>
    .cons ((delimits_quote key).append_spells
        (delimits_colon.append_spells (spells_compactChars value)))
      (spells_compactFields rest)

end

mutual

theorem meaningful_tree : ∀ value : Json, value.tree.Meaningful
  | null => .word isWordOf_null.isWord
  | bool value => .word (isWordOf_bool value).isWord
  | num value => .word (isWordOf_num value).isWord
  | str _ => .text _
  | arr items => .list (meaningful_treeItems items)
  | obj fields => .record (meaningful_treeFields fields)

theorem meaningful_treeItems :
    ∀ items : List Json, ∀ item ∈ treeItems items, JsonTree.Meaningful item
  | [], _, h => absurd h List.not_mem_nil
  | item :: rest, _, h => by
    rcases List.mem_cons.mp h with rfl | h
    · exact meaningful_tree item
    · exact meaningful_treeItems rest _ h

theorem meaningful_treeFields : ∀ fields : List (String × Json),
    ∀ field ∈ treeFields fields, JsonTree.Meaningful field.2
  | [], _, h => absurd h List.not_mem_nil
  | (_, value) :: rest, _, h => by
    rcases List.mem_cons.mp h with rfl | h
    · exact meaningful_tree value
    · exact meaningful_treeFields rest _ h

end

private theorem ofBytes?_of_spells {value : Json} (h : Spells cs value.tree.tokens) :
    JsonTree.ofBytes? (Utf8.encode (String.ofList cs)) = some value.tree := by
  have hscan : scan? (Utf8.encode (String.ofList cs)) = some value.tree.tokens := by
    rw [Utf8.encode_ofList]
    exact Scans.scan? h
  rw [JsonTree.ofBytes?, hscan, Option.bind_some, JsonTree.ofTokens?_tokens (meaningful_tree value)]

/-- **Reading the shape back.** The text of a value has the tree of the value. -/
theorem ofBytes?_pretty (value : Json) :
    JsonTree.ofBytes? (Utf8.encode value.pretty) = some value.tree :=
  ofBytes?_of_spells (spells_prettyChars 0 value)

theorem ofBytes?_compact (value : Json) :
    JsonTree.ofBytes? (Utf8.encode value.compact) = some value.tree :=
  ofBytes?_of_spells (spells_compactChars value)

end Json

end LeagueStandings
