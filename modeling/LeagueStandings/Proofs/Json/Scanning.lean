import LeagueStandings.Json.Token

/-!
# Scanning in parts

A text that is written piece by piece is scanned piece by piece. The only thing that a piece leaves
open is a word at its end: whether the word is over is known at the next byte. So there are two
relations between bytes and the tokens that they scan to. `Closes` says that the scanner stands
between two tokens afterwards, and `Scans` that it may also stand in a word. Words are closed by the
blanks, commas and brackets that follow them in every JSON text.
-/

namespace LeagueStandings.JsonToken

namespace Scanner

variable {tokens : List JsonToken} {spelling : List UInt8} {b : UInt8}

/-! ## Single steps -/

theorem step_between : step ⟨tokens, .between⟩ b = some (start tokens b) := rfl

theorem step_word_of_endsWord (h : endsWord b = true) :
    step ⟨tokens, .word spelling⟩ b = some (start (.word spelling.reverse :: tokens) b) :=
  if_pos h

theorem step_word (h : endsWord b = false) :
    step ⟨tokens, .word spelling⟩ b = some ⟨tokens, .word (b :: spelling)⟩ :=
  if_neg (Bool.eq_false_iff.mp h)

theorem step_text (hquote : b ≠ 0x22) (hbackslash : b ≠ 0x5C) (hblank : ¬ b < 0x20) :
    step ⟨tokens, .text spelling⟩ b = some ⟨tokens, .text (b :: spelling)⟩ := by
  simp only [step, if_neg hquote, if_neg hbackslash, if_neg hblank]

theorem step_text_quote :
    step ⟨tokens, .text spelling⟩ 0x22 = some ⟨.text spelling.reverse :: tokens, .between⟩ := rfl

theorem step_text_backslash :
    step ⟨tokens, .text spelling⟩ 0x5C = some ⟨tokens, .escape (0x5C :: spelling)⟩ := rfl

theorem step_escape (h : isShortEscape b = true) :
    step ⟨tokens, .escape spelling⟩ b = some ⟨tokens, .text (b :: spelling)⟩ := by
  have hne : b ≠ 0x75 := by
    rintro rfl
    cases h
  simp only [step, if_neg hne, if_pos h]

theorem step_escape_unicode :
    step ⟨tokens, .escape spelling⟩ 0x75 = some ⟨tokens, .unicode 3 (0x75 :: spelling)⟩ := rfl

theorem step_unicode {missing : Nat} (h : isHexDigit b = true) :
    step ⟨tokens, .unicode (missing + 1) spelling⟩ b =
      some ⟨tokens, .unicode missing (b :: spelling)⟩ := by
  simp only [step, if_pos h]

theorem step_unicode_zero (h : isHexDigit b = true) :
    step ⟨tokens, .unicode 0 spelling⟩ b = some ⟨tokens, .text (b :: spelling)⟩ := by
  simp only [step, if_pos h]

/-- The tokens last first, a word at the end being taken as over. -/
def settled? (s : Scanner) : Option (List JsonToken) :=
  match s.position with
  | .between => some s.tokens
  | .word spelling => some (.word spelling.reverse :: s.tokens)
  | _ => none

theorem finish_eq (s : Scanner) : s.finish = s.settled?.map List.reverse := by
  rw [finish, settled?]
  cases s.position <;> rfl

/-- A byte that ends words is taken as if the word had been over before. -/
theorem step_of_settled? {s : Scanner} (hs : s.settled? = some tokens) (h : endsWord b = true) :
    s.step b = step ⟨tokens, .between⟩ b := by
  obtain ⟨done, position⟩ := s
  cases position with
  | between =>
    cases hs
    rfl
  | word spelling =>
    cases hs
    exact step_word_of_endsWord h
  | text _ => cases hs
  | escape _ => cases hs
  | unicode _ _ => cases hs

end Scanner

/-! ## Pieces -/

/-- The bytes scan to the tokens and leave nothing open. -/
def Closes (bytes : List UInt8) (tokens : List JsonToken) : Prop :=
  ∀ done, bytes.foldlM Scanner.step ⟨done, .between⟩ = some ⟨tokens.reverse ++ done, .between⟩

/-- The bytes scan to the tokens, where a word at their end is taken as over. -/
def Scans (bytes : List UInt8) (tokens : List JsonToken) : Prop :=
  ∀ done, ∃ s, bytes.foldlM Scanner.step ⟨done, .between⟩ = some s ∧
    s.settled? = some (tokens.reverse ++ done)

variable {first second : List UInt8} {tokens more : List JsonToken}

theorem Closes.scans (h : Closes first tokens) : Scans first tokens :=
  fun done ↦ ⟨_, h done, rfl⟩

theorem Closes.append (hfirst : Closes first tokens) (hsecond : Closes second more) :
    Closes (first ++ second) (tokens ++ more) := by
  intro done
  rw [List.foldlM_append, hfirst done]
  change second.foldlM Scanner.step ⟨tokens.reverse ++ done, .between⟩ = _
  rw [hsecond, List.reverse_append, List.append_assoc]

theorem Closes.append_scans (hfirst : Closes first tokens) (hsecond : Scans second more) :
    Scans (first ++ second) (tokens ++ more) := by
  intro done
  obtain ⟨s, hs, hsettled⟩ := hsecond (tokens.reverse ++ done)
  refine ⟨s, ?_, ?_⟩
  · rw [List.foldlM_append, hfirst done]
    exact hs
  · rw [hsettled, List.reverse_append, List.append_assoc]

theorem Scans.append_closes {b : UInt8} (hfirst : Scans first tokens)
    (hb : Scanner.endsWord b = true) (hsecond : Closes (b :: second) more) :
    Closes (first ++ b :: second) (tokens ++ more) := by
  intro done
  obtain ⟨s, hs, hsettled⟩ := hfirst done
  have hrest := hsecond (tokens.reverse ++ done)
  rw [List.foldlM_cons] at hrest
  rw [List.foldlM_append, hs, List.reverse_append, List.append_assoc]
  change (b :: second).foldlM Scanner.step s = _
  -- The next byte finds the word over, as if it had been closed before.
  rw [List.foldlM_cons, Scanner.step_of_settled? hsettled hb, hrest]

theorem Scans.scan? (h : Scans first tokens) : JsonToken.scan? first = some tokens := by
  obtain ⟨s, hs, hsettled⟩ := h []
  rw [JsonToken.scan?, hs, Option.bind_some, Scanner.finish_eq, hsettled, List.append_nil,
    Option.map_some, List.reverse_reverse]

/-! ## Single tokens -/

theorem closes_punctuation {b : UInt8} {token : JsonToken} (hspace : isSpace b = false)
    (hquote : b ≠ 0x22) (h : punctuation? b = some token) : Closes [b] [token] := by
  intro done
  rw [List.foldlM_cons, Scanner.step_between, Scanner.start, if_neg (Bool.eq_false_iff.mp hspace),
    if_neg hquote, h]
  rfl

theorem closes_spaces {bytes : List UInt8} (h : ∀ b ∈ bytes, isSpace b = true) :
    Closes bytes [] := by
  intro done
  induction bytes with
  | nil => rfl
  | cons b bytes ih =>
    have hb : isSpace b = true := h b List.mem_cons_self
    rw [List.foldlM_cons, Scanner.step_between, Scanner.start, if_pos hb]
    exact ih fun other ho ↦ h other (List.mem_cons_of_mem _ ho)

private theorem foldlM_step_word {bytes : List UInt8}
    (h : ∀ b ∈ bytes, Scanner.endsWord b = false) (done : List JsonToken)
    (spelling : List UInt8) :
    bytes.foldlM Scanner.step ⟨done, .word spelling⟩ =
      some ⟨done, .word (bytes.reverse ++ spelling)⟩ := by
  induction bytes generalizing spelling with
  | nil => rfl
  | cons b bytes ih =>
    rw [List.foldlM_cons, Scanner.step_word (h b List.mem_cons_self), List.reverse_cons,
      List.append_assoc]
    exact ih (fun other ho ↦ h other (List.mem_cons_of_mem _ ho)) (b :: spelling)

theorem scans_word {spelling : List UInt8} (hne : spelling ≠ [])
    (h : ∀ b ∈ spelling, Scanner.endsWord b = false) : Scans spelling [.word spelling] := by
  intro done
  obtain ⟨b, bytes, rfl⟩ := List.exists_cons_of_ne_nil hne
  have hb : Scanner.endsWord b = false := h b List.mem_cons_self
  rw [Scanner.endsWord, Bool.or_eq_false_iff, Bool.or_eq_false_iff, beq_eq_false_iff_ne,
    Option.isSome_eq_false_iff, Option.isNone_iff_eq_none] at hb
  have hstart : Scanner.start done b = ⟨done, .word [b]⟩ := by
    rw [Scanner.start, if_neg (Bool.eq_false_iff.mp hb.1.1), if_neg hb.1.2, hb.2]
  refine ⟨⟨done, .word (bytes.reverse ++ [b])⟩, ?_, ?_⟩
  · rw [List.foldlM_cons, Scanner.step_between, hstart]
    exact foldlM_step_word (fun other ho ↦ h other (List.mem_cons_of_mem _ ho)) done [b]
  · change some (.word (bytes.reverse ++ [b]).reverse :: done) = _
    rw [List.reverse_append, List.reverse_reverse]
    rfl

end LeagueStandings.JsonToken
