import LeagueStandings.Proofs.Json.Rereading
import LeagueStandings.Proofs.Json.Scanning
import LeagueStandings.Proofs.Text.Utf8

/-!
# Words as they are written

The written words are `null`, `true`, `false` and the spellings of numerals. All their characters
are one byte each and stand inside of words (`isWordChar`), so a written word is scanned as one
token, and its bytes give its characters back (`wordChars_flatMap`). What a value's word is read as
is then a matter of its characters (`IsWordOf`).
-/

namespace LeagueStandings

open JsonToken

/-- The character is one byte that does not end a word. -/
def isWordChar (c : Char) : Bool :=
  decide (c.toNat < 0x80) && !Scanner.endsWord (UInt8.ofNat c.toNat)

theorem isWordChar_iff {c : Char} :
    isWordChar c = true ↔ c.toNat < 0x80 ∧ Scanner.endsWord (UInt8.ofNat c.toNat) = false := by
  rw [isWordChar, Bool.and_eq_true, decide_eq_true_iff, Bool.not_eq_true']

private theorem endsWord_digit :
    ∀ n < 58, 48 ≤ n → Scanner.endsWord (UInt8.ofNat n) = false := by
  decide

theorem isWordChar_of_isDigit {c : Char} (h : c.isDigit = true) : isWordChar c = true := by
  obtain ⟨hge, hle⟩ := Char.isDigit_iff_toNat.mp h
  change 48 ≤ c.toNat at hge
  change c.toNat ≤ 57 at hle
  exact isWordChar_iff.mpr ⟨by omega, endsWord_digit _ (by omega) hge⟩

private theorem isWordChar_of_sign {c : Char} (h : c = '+' ∨ c = '-') : isWordChar c = true := by
  rcases h with rfl | rfl <;> rfl

theorem isWordChar_of_mem_spelling {n : Numeral} (h : n.WellFormed) :
    ∀ c ∈ n.spelling, isWordChar c = true := by
  intro c hc
  rw [Numeral.spelling, List.mem_append, List.mem_append, List.mem_append, Option.mem_toList] at hc
  rcases hc with hsign | hwhole | hfraction | hexponent
  · exact isWordChar_of_sign (h.sign c hsign)
  · exact isWordChar_of_isDigit (h.whole c hwhole)
  · cases hpoint : n.fraction with
    | none =>
      rw [hpoint] at hfraction
      cases hfraction
    | some digits =>
      rw [hpoint, Numeral.fractionChars, List.mem_cons] at hfraction
      rcases hfraction with rfl | hdigit
      · rfl
      · exact isWordChar_of_isDigit (h.fraction digits hpoint c hdigit)
  · cases hmark : n.exponent with
    | none =>
      rw [hmark] at hexponent
      cases hexponent
    | some exponent =>
      rw [hmark, Numeral.exponentChars, List.mem_cons, List.mem_append, Option.mem_toList]
        at hexponent
      rcases hexponent with rfl | hsign | hdigit
      · rfl
      · exact isWordChar_of_sign (h.exponentSign exponent hmark c hsign)
      · exact isWordChar_of_isDigit ((h.exponentDigits exponent hmark).2 c hdigit)

/-! ## The bytes of a word -/

variable {cs : List Char}

private theorem utf8EncodeChar_of_isWordChar {c : Char} (h : isWordChar c = true) :
    String.utf8EncodeChar c = [UInt8.ofNat c.toNat] :=
  Utf8.utf8EncodeChar_of_lt (isWordChar_iff.mp h).1

/-- **The characters of a written word** are recovered from its bytes. -/
theorem wordChars_flatMap (h : ∀ c ∈ cs, isWordChar c = true) :
    JsonTree.wordChars (cs.flatMap String.utf8EncodeChar) = cs := by
  induction cs with
  | nil => rfl
  | cons c cs ih =>
    have hc := h c List.mem_cons_self
    have hrest := ih fun other ho ↦ h other (List.mem_cons_of_mem _ ho)
    have hlt := (isWordChar_iff.mp hc).1
    have hcode : Char.ofNat (UInt8.ofNat c.toNat).toNat = c := by
      rw [UInt8.toNat_ofNat', Nat.mod_eq_of_lt (by omega), Char.ofNat_toNat]
    rw [JsonTree.wordChars] at hrest ⊢
    rw [List.flatMap_cons, utf8EncodeChar_of_isWordChar hc, List.map_append, hrest,
      List.map_singleton, hcode]
    rfl

/-- **A written word** is one token. -/
theorem scans_of_isWordChar (hne : cs ≠ []) (h : ∀ c ∈ cs, isWordChar c = true) :
    Scans (cs.flatMap String.utf8EncodeChar) [.word (cs.flatMap String.utf8EncodeChar)] := by
  refine scans_word ?_ fun b hb ↦ ?_
  · obtain ⟨c, rest, rfl⟩ := List.exists_cons_of_ne_nil hne
    rw [List.flatMap_cons, utf8EncodeChar_of_isWordChar (h c List.mem_cons_self)]
    exact List.cons_ne_nil _ _
  · obtain ⟨c, hc, hb⟩ := List.mem_flatMap.mp hb
    rw [utf8EncodeChar_of_isWordChar (h c hc), List.mem_singleton] at hb
    exact hb ▸ (isWordChar_iff.mp (h c hc)).2

/-! ## The words of values -/

namespace Json

/-- The characters make up a word, and the word is read as the value. -/
structure IsWordOf (value : Json) (cs : List Char) : Prop where
  ne_nil : cs ≠ []
  isWordChar : ∀ c ∈ cs, isWordChar c = true
  isWord : JsonTree.isWord (cs.flatMap String.utf8EncodeChar) = true
  value : JsonTree.wordValue? (cs.flatMap String.utf8EncodeChar) = some value

theorem isWordOf_null : null.IsWordOf null.compactChars where
  ne_nil := by decide
  isWordChar := List.all_eq_true.mp rfl
  isWord := rfl
  value := rfl

theorem isWordOf_bool (value : Bool) : (bool value).IsWordOf (bool value).compactChars where
  ne_nil := by cases value <;> decide
  isWordChar := by cases value <;> exact List.all_eq_true.mp rfl
  isWord := by cases value <;> rfl
  value := by cases value <;> rfl

/-- The word of a number is read as what is read of the number again. -/
theorem isWordOf_num (value : JsonNumber) :
    (num value.reread).IsWordOf (num value).compactChars := by
  obtain ⟨n, hreads, hspelling⟩ := value.exists_spelling_chars
  have hchars : (num value).compactChars = n.spelling := hspelling.symm
  have hword := isWordChar_of_mem_spelling hreads.wellFormed
  have hnumeral := JsonNumber.ofJson?_spelling hreads.wellFormed hreads.isJson
  -- A numeral is none of the three words, since those are not numerals.
  have hne : ∀ letters : List Char, Numeral.ofJson? letters = none → n.spelling ≠ letters := by
    rintro _ hnone rfl
    rw [hnumeral] at hnone
    cases hnone
  rw [hchars]
  refine ⟨hne [] rfl, hword, ?_, ?_⟩
  · rw [JsonTree.isWord, wordChars_flatMap hword, hnumeral]
    exact Bool.or_true _
  · rw [JsonTree.wordValue?, wordChars_flatMap hword, if_neg (hne _ rfl),
      if_neg (hne _ rfl), if_neg (hne _ rfl), hnumeral, Option.bind_some, hreads.value,
      Option.map_some]

end Json

end LeagueStandings
