import LeagueStandings.Proofs.Text.Split
import LeagueStandings.Proofs.Url.Percent
import LeagueStandings.Url.Form

/-!
# Reading form-encoded pairs

A server takes a query apart into pairs: it splits it at every `&`, drops what is empty, cuts each
piece at its first `=`, and decodes both sides (`decode`). What it gets are bytes; whether they are
UTF-8 is the business of the server.

Pairs that are added to a query come back as they are, behind the pairs that the query had
(`decode_append`). No sign that delimits anything comes from a name or a value (`IsInert`), so they
cannot be taken for more pairs, or for the end of the query.
-/

namespace LeagueStandings.Form

/-! ## Reading -/

/-- What a name or a value stands for. -/
def decodeText (cs : List Char) : List UInt8 :=
  Percent.decode ((cs.map fun c ↦ if c = '+' then ' ' else c).flatMap String.utf8EncodeChar)

/-- The name and the value of a pair; the value may be missing. -/
def decodePair (cs : List Char) : List UInt8 × List UInt8 :=
  (decodeText (Text.cutAt '=' cs).1, decodeText ((Text.cutAt '=' cs).2.getD []))

/-- The pairs of a query. -/
def decode (query : List Char) : List (List UInt8 × List UInt8) :=
  ((Text.splitAt (· == '&') query).filter (· != [])).map decodePair

/-- The bytes of a pair of texts. -/
def pairBytes (pair : String × String) : List UInt8 × List UInt8 :=
  (Utf8.encode pair.1, Utf8.encode pair.2)

/-! ## Names and values -/

/-- The character is kept in names and values, or encoding writes it for another. -/
def IsInert (c : Char) : Prop := isKept c = true ∨ c = '+' ∨ c = '%'

theorem isInert_of_mem_encode {text : String} {c : Char} (h : c ∈ encode text) : IsInert c := by
  obtain ⟨d, -, hd⟩ := List.mem_flatMap.mp h
  unfold encodeChar at hd
  split at hd
  · exact .inr (.inl (List.mem_singleton.mp hd))
  · by_cases halnum : c.isAlphanum = true
    · exact .inl (by simp [isKept, halnum])
    · by_cases hpercent : c = '%'
      · exact .inr (.inr hpercent)
      · obtain ⟨rfl, hkept⟩ :=
          Percent.mem_of_mem_encodeChar hd (Bool.eq_false_iff.mpr halnum) hpercent
        exact .inl hkept

theorem not_mem_encode {text : String} {sign : Char} (h : sign ∈ ['&', '=', '#']) :
    sign ∉ encode text := by
  intro hmem
  have hinert := isInert_of_mem_encode hmem
  simp only [List.mem_cons, List.not_mem_nil, or_false] at h
  rcases h with rfl | rfl | rfl <;> exact absurd hinert (by unfold IsInert; decide)

private theorem ascii_of_isKept {c : Char} (h : isKept c = true) :
    c.toNat < 0x80 ∧ c ≠ '%' := by
  simp only [isKept, Bool.or_eq_true, beq_iff_eq] at h
  rcases h with (((h | rfl) | rfl) | rfl) | rfl
  · constructor
    · have hz : 'z'.val.toNat = 122 := rfl
      have hZ : 'Z'.val.toNat = 90 := rfl
      have hnine : '9'.val.toNat = 57 := rfl
      delta Char.isAlphanum Char.isAlpha Char.isUpper Char.isLower Char.isDigit at h
      simp only [Bool.or_eq_true, Bool.and_eq_true, decide_eq_true_eq, ge_iff_le,
        UInt32.le_iff_toNat_le] at h
      change c.val.toNat < 0x80
      omega
    · rintro rfl
      exact absurd h (by decide)
  all_goals decide

private theorem decode_encodeChar (c : Char) (rest : List UInt8) :
    Percent.decode (((encodeChar c).map fun c ↦ if c = '+' then ' ' else c).flatMap
        String.utf8EncodeChar ++ rest) = String.utf8EncodeChar c ++ Percent.decode rest := by
  unfold encodeChar
  split
  · next h =>
    subst h
    exact Percent.decode_append_of_not_mem (by decide) rest
  · have hplus : '+' ∉ Percent.encodeChar isKept c := by
      intro hmem
      obtain ⟨rfl, hkept⟩ := Percent.mem_of_mem_encodeChar hmem rfl (by decide)
      cases hkept
    have hmap : (Percent.encodeChar isKept c).map (fun c ↦ if c = '+' then ' ' else c) =
        (Percent.encodeChar isKept c).map id := by
      refine List.map_congr_left fun d hd ↦ if_neg ?_
      rintro rfl
      exact hplus hd
    rw [hmap, List.map_id]
    exact Percent.decode_encodeChar ascii_of_isKept rest

/-- **A name or a value comes back.** -/
theorem decodeText_encode (text : String) : decodeText (encode text) = Utf8.encode text := by
  have h : ∀ cs : List Char, decodeText (cs.flatMap encodeChar) =
      cs.flatMap String.utf8EncodeChar := by
    intro cs
    induction cs with
    | nil => rfl
    | cons c cs ih =>
      rw [List.flatMap_cons, decodeText, List.map_append, List.flatMap_append, decode_encodeChar,
        ← decodeText, ih, List.flatMap_cons]
  rw [Utf8.encode_eq]
  exact h text.toList

theorem decodeText_slash (cs : List Char) : decodeText ('/' :: cs) = 0x2F :: decodeText cs := by
  have hslash : String.utf8EncodeChar '/' = [0x2F] := by decide
  rw [decodeText, List.map_cons, if_neg (by decide), List.flatMap_cons, hslash,
    List.singleton_append, Percent.decode_cons_of_ne (by decide), decodeText]

/-! ## Pairs -/

private theorem decodePair_encodePair (pair : String × String) :
    decodePair (encodePair pair) = pairBytes pair := by
  rw [decodePair, encodePair, Text.cutAt_append_cons (not_mem_encode (by decide)),
    Option.getD_some, decodeText_encode, decodeText_encode, pairBytes]

theorem not_mem_encodePair (pair : String × String) {sign : Char} (h : sign ∈ ['&', '#']) :
    sign ∉ encodePair pair := by
  intro hmem
  have hname : sign ∈ ['&', '=', '#'] :=
    List.Sublist.subset (by decide : ['&', '#'].Sublist ['&', '=', '#']) h
  rw [encodePair, List.mem_append, List.mem_cons] at hmem
  rcases hmem with hmem | hmem | hmem
  · exact not_mem_encode hname hmem
  · subst hmem
    exact absurd h (by decide)
  · exact not_mem_encode hname hmem

private theorem decode_encodePair (pair : String × String) :
    decode (encodePair pair) = [pairBytes pair] := by
  have hpiece : Text.splitAt (· == '&') (encodePair pair) = [encodePair pair] := by
    refine Text.splitAt_eq_singleton fun c hc ↦ ?_
    rw [beq_eq_false_iff_ne]
    rintro rfl
    exact not_mem_encodePair pair (by decide) hc
  have hne : encodePair pair ≠ [] := by simp [encodePair]
  simp [decode, hpiece, hne, decodePair_encodePair]

private theorem decode_append_amp (query piece : List Char) :
    decode (query ++ '&' :: piece) = decode query ++ decode piece := by
  rw [decode, Text.splitAt_append_cons rfl, List.filter_append, List.map_append]
  rfl

/-- **Pairs come back in their order**, behind those of the query to which they are added. -/
theorem decode_append (query : List Char) (pairs : List (String × String)) :
    decode (append query pairs) = decode query ++ pairs.map pairBytes := by
  unfold append
  induction pairs generalizing query with
  | nil => simp
  | cons pair pairs ih =>
    rw [List.foldl_cons, ih, List.map_cons]
    by_cases h : query = []
    · rw [if_pos h, h, List.append_nil, List.nil_append, decode_encodePair]
      rfl
    · rw [if_neg h, List.append_assoc, List.singleton_append, decode_append_amp,
        decode_encodePair, List.append_assoc]
      rfl

theorem not_mem_append {query : List Char} {pairs : List (String × String)} (h : '#' ∉ query) :
    '#' ∉ append query pairs := by
  unfold append
  induction pairs generalizing query with
  | nil => exact h
  | cons pair pairs ih =>
    refine ih ?_
    simp only [List.mem_append, not_or]
    refine ⟨⟨h, ?_⟩, not_mem_encodePair pair (by decide)⟩
    split <;> decide

/-! ## What is read in all -/

/-- All that is read from a query, names and values in their order. -/
def content (query : List Char) : List UInt8 :=
  (decode query).flatMap fun pair ↦ pair.1 ++ pair.2

private def pieceContent (piece : List Char) : List UInt8 :=
  (decodePair piece).1 ++ (decodePair piece).2

private theorem content_eq (query : List Char) :
    content query = (Text.splitAt (· == '&') query).flatMap pieceContent := by
  rw [content, decode, List.flatMap_map]
  induction Text.splitAt (· == '&') query with
  | nil => rfl
  | cons piece pieces ih =>
    rw [List.flatMap_cons, ← ih]
    by_cases h : piece = []
    · subst h
      rfl
    · rw [List.filter_cons_of_pos (by simpa using h), List.flatMap_cons]
      rfl

section Append

variable {rest : List Char} (hhead : ∀ c ∈ rest.head?, c = '/' ∨ c = '%')

include hhead in
/-- A slash and a percent sign are no digits, so they complete no code. -/
private theorem decodeText_append (cs : List Char) :
    decodeText (cs ++ rest) = decodeText cs ++ decodeText rest := by
  rw [decodeText, List.map_append, List.flatMap_append, Percent.decode_append, decodeText,
    decodeText]
  cases rest with
  | nil => exact fun b hb ↦ nomatch hb
  | cons c rest =>
    rcases hhead c rfl with rfl | rfl <;>
    · rintro b ⟨⟩
      rfl

include hhead in
private theorem pieceContent_append (heq : '=' ∉ rest) (piece : List Char) :
    pieceContent (piece ++ rest) = pieceContent piece ++ decodeText rest := by
  unfold pieceContent decodePair
  rcases Text.cutAt_cases '=' piece with ⟨hnot, hcut⟩ | ⟨name, value, hnot, rfl, hcut⟩
  · have hall : '=' ∉ piece ++ rest := by simp [hnot, heq]
    rw [hcut, Text.cutAt_of_not_mem hall]
    simp only [Option.getD_none, decodeText_append hhead]
    simp [decodeText, Percent.decode]
  · rw [hcut, List.append_assoc, List.cons_append, Text.cutAt_append_cons hnot]
    simp only [Option.getD_some, decodeText_append hhead, List.append_assoc]

include hhead in
/-- What goes on with the last value is read behind all the rest. -/
theorem content_append (hamp : '&' ∉ rest) (heq : '=' ∉ rest) (query : List Char) :
    content (query ++ rest) = content query ++ decodeText rest := by
  have hamp : ∀ c ∈ rest, (c == '&') = false :=
    fun c hc ↦ beq_eq_false_iff_ne.mpr fun hsign ↦ hamp (hsign ▸ hc)
  obtain ⟨pieces, last, hquery, happend⟩ :=
    Text.exists_splitAt_append (p := (· == '&')) hamp query
  rw [content_eq, content_eq, hquery, happend, List.flatMap_append, List.flatMap_append,
    List.flatMap_singleton, List.flatMap_singleton, pieceContent_append hhead heq,
    List.append_assoc]

end Append

end LeagueStandings.Form
