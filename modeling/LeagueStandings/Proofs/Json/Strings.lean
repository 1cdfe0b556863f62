import LeagueStandings.Json.Text
import LeagueStandings.Json.Writer
import LeagueStandings.Proofs.Json.Scanning
import LeagueStandings.Proofs.Text.Utf8

/-!
# Strings as they are written

A character of a string is written in one of three ways: behind a backslash, as a control character
with its code in hexadecimal, or as it is. `Written` lists them with what a reader needs to know of
the bytes, and both readers of strings follow it: the scanner, which only looks for the end of the
string (`foldlM_step_of_written`), and the decoder, which recovers the characters
(`decode?_escaped`).
-/

namespace LeagueStandings.JsonText

open JsonToken

/-- The bytes that a character is written with between quotes. -/
def escapedBytes (c : Char) : List UInt8 := (Json.escapeChar c).flatMap String.utf8EncodeChar

/-- The ways to write a character. -/
inductive Written (c : Char) : List UInt8 → Prop
  | short {b : UInt8} : shortEscape? b = some (UInt8.ofNat c.toNat) → isShortEscape b = true →
      c.toNat < 0x80 → Written c [0x5C, b]
  | unicode {high low : UInt8} : hexValue? high = some (c.toNat / 16) →
      hexValue? low = some (c.toNat % 16) → isHexDigit high = true → isHexDigit low = true →
      c.toNat < 0x20 → Written c [0x5C, 0x75, 0x30, 0x30, high, low]
  | plain : (∀ b ∈ String.utf8EncodeChar c, b ≠ 0x22 ∧ b ≠ 0x5C ∧ ¬ b < 0x20) →
      Written c (String.utf8EncodeChar c)

private theorem hexDigit_facts : ∀ n < 32,
    hexValue? (UInt8.ofNat (hexDigit (n / 16)).toNat) = some (n / 16) ∧
      hexValue? (UInt8.ofNat (hexDigit n).toNat) = some (n % 16) ∧
      isHexDigit (UInt8.ofNat (hexDigit (n / 16)).toNat) = true ∧
      isHexDigit (UInt8.ofNat (hexDigit n).toNat) = true ∧
      (hexDigit (n / 16)).toNat < 0x80 ∧ (hexDigit n).toNat < 0x80 := by
  decide

/-- A byte of a character above the blank, other than the quote and the backslash, is none of the
bytes that a scanner treats specially. -/
private theorem plain_of_mem {c : Char} (hquote : c ≠ '"') (hbackslash : c ≠ '\\')
    (hblank : ¬ c.toNat < 0x20) :
    ∀ b ∈ String.utf8EncodeChar c, b ≠ 0x22 ∧ b ≠ 0x5C ∧ ¬ b < 0x20 := by
  have hne : ∀ d : Char, c ≠ d → c.toNat ≠ d.toNat := fun d h heq ↦ h (Char.toNat_inj.mp heq)
  have hquote := hne _ hquote
  have hbackslash := hne _ hbackslash
  change c.toNat ≠ 0x22 at hquote
  change c.toNat ≠ 0x5C at hbackslash
  intro b hb
  have hb' : 0x80 ≤ b.toNat ∨ b.toNat = c.toNat := by
    by_cases h : c.toNat < 0x80
    · rw [Utf8.utf8EncodeChar_of_lt h, List.mem_singleton] at hb
      rw [hb, UInt8.toNat_ofNat', Nat.mod_eq_of_lt (by omega)]
      exact .inr rfl
    · exact .inl (Utf8.le_of_mem_utf8EncodeChar (Nat.not_lt.mp h) b hb)
  rw [ne_eq, ne_eq, ← UInt8.toNat_inj, ← UInt8.toNat_inj, UInt8.lt_iff_toNat_lt]
  change ¬ b.toNat = 0x22 ∧ ¬ b.toNat = 0x5C ∧ ¬ b.toNat < 0x20
  omega

theorem written_escapedBytes (c : Char) : Written c (escapedBytes c) := by
  rw [escapedBytes, Json.escapeChar]
  split
  · next h => subst h; exact .short rfl rfl (by decide)
  next hquote =>
  split
  · next h => subst h; exact .short rfl rfl (by decide)
  next hbackslash =>
  split
  · next h => subst h; exact .short rfl rfl (by decide)
  split
  · next h => subst h; exact .short rfl rfl (by decide)
  split
  · next h => subst h; exact .short rfl rfl (by decide)
  split
  · next h => subst h; exact .short rfl rfl (by decide)
  split
  · next h => subst h; exact .short rfl rfl (by decide)
  split
  · next h =>
    obtain ⟨hhigh, hlow, hhigh', hlow', hlt, hlt'⟩ := hexDigit_facts c.toNat h
    simp only [List.flatMap_cons, List.flatMap_nil, Utf8.utf8EncodeChar_of_lt hlt,
      Utf8.utf8EncodeChar_of_lt hlt']
    exact .unicode hhigh hlow hhigh' hlow' h
  · next h =>
    rw [List.flatMap_singleton]
    exact .plain (plain_of_mem hquote hbackslash h)

/-! ## Recovering the characters -/

private theorem read_byte {b : UInt8} {rest : List UInt8} {joined : List UInt8} (hb : b ≠ 0x5C)
    (h : (pieces? rest).bind join? = some joined) :
    (pieces? (b :: rest)).bind join? = some (b :: joined) := by
  obtain ⟨pieces, hpieces, hjoin⟩ := Option.bind_eq_some_iff.mp h
  rw [pieces?, if_neg hb, hpieces, Option.map_some, Option.bind_some, join?, hjoin]
  · rfl
  · exact fun _ _ _ _ _ he ↦ absurd he hb
  · exact fun _ _ he ↦ absurd he hb

private theorem read_bytes {bytes rest joined : List UInt8} (hbytes : ∀ b ∈ bytes, b ≠ 0x5C)
    (h : (pieces? rest).bind join? = some joined) :
    (pieces? (bytes ++ rest)).bind join? = some (bytes ++ joined) := by
  induction bytes with
  | nil => exact h
  | cons b bytes ih =>
    exact read_byte (hbytes b List.mem_cons_self)
      (ih fun other ho ↦ hbytes other (List.mem_cons_of_mem _ ho))

/-- A unit that is no surrogate stands for itself, whatever follows. -/
private theorem join?_unit {n : Nat} (h : n < 0xD800) (pieces : List Piece) :
    join? (.unit n :: pieces) =
      (join? pieces).map (String.utf8EncodeChar (Char.ofNat n) ++ ·) := by
  have hhigh : isHighSurrogate n = false := by simp [isHighSurrogate]; omega
  have hlow : isLowSurrogate n = false := by simp [isLowSurrogate]; omega
  cases pieces with
  | nil => simp [join?, hhigh, hlow]
  | cons piece pieces =>
    cases piece with
    | byte b =>
      rw [join?, join?, hhigh, hlow, Option.map_map]
      rfl
    | unit m =>
      rw [join?, hhigh, hlow]
      rfl

theorem read_of_written {c : Char} {bytes rest joined : List UInt8} (hc : Written c bytes)
    (h : (pieces? rest).bind join? = some joined) :
    (pieces? (bytes ++ rest)).bind join? = some (String.utf8EncodeChar c ++ joined) := by
  cases hc with
  | @short b hvalue hescape hascii =>
    have hb : b ≠ 0x75 := by
      rintro rfl
      cases hescape
    obtain ⟨pieces, hpieces, hjoin⟩ := Option.bind_eq_some_iff.mp h
    rw [Utf8.utf8EncodeChar_of_lt hascii, List.cons_append, List.cons_append, List.nil_append,
      pieces?, hvalue, hpieces]
    · change join? (.byte (UInt8.ofNat c.toNat) :: pieces) = _
      rw [join?, hjoin]
      rfl
    · exact fun _ _ _ _ _ he _ ↦ absurd he hb
  | @unicode high low hhigh hlow _ _ hlt =>
    -- The two zeros in front make the four digits spell the code, which is far from a surrogate.
    obtain ⟨pieces, hpieces, hjoin⟩ := Option.bind_eq_some_iff.mp h
    have hzero : hexValue? 0x30 = some 0 := rfl
    have hcode : ((0 * 16 + 0) * 16 + c.toNat / 16) * 16 + c.toNat % 16 = c.toNat := by omega
    simp only [List.cons_append, List.nil_append, pieces?, hzero, hhigh, hlow, hpieces]
    change join? (.unit (((0 * 16 + 0) * 16 + c.toNat / 16) * 16 + c.toNat % 16) :: pieces) = _
    rw [hcode, join?_unit (by omega), hjoin, Char.ofNat_toNat]
    rfl
  | plain hbytes => exact read_bytes (fun b hb ↦ (hbytes b hb).2.1) h

/-- **Reading a string back** gives its text. -/
theorem decode?_escaped (text : String) :
    decode? (text.toList.flatMap escapedBytes) = some text := by
  have hread : ∀ cs : List Char, (pieces? (cs.flatMap escapedBytes)).bind join? =
      some (cs.flatMap String.utf8EncodeChar) := by
    intro cs
    induction cs with
    | nil => rfl
    | cons c cs ih => exact read_of_written (written_escapedBytes c) ih
  rw [decode?, hread, Option.bind_some, ← Utf8.encode_eq, Utf8.decode?_encode]

/-! ## Finding the end -/

private theorem foldlM_step_bytes {bytes : List UInt8}
    (hbytes : ∀ b ∈ bytes, b ≠ 0x22 ∧ b ≠ 0x5C ∧ ¬ b < 0x20) (tokens : List JsonToken)
    (spelling : List UInt8) :
    bytes.foldlM Scanner.step ⟨tokens, .text spelling⟩ =
      some ⟨tokens, .text (bytes.reverse ++ spelling)⟩ := by
  induction bytes generalizing spelling with
  | nil => rfl
  | cons b bytes ih =>
    obtain ⟨hquote, hbackslash, hblank⟩ := hbytes b List.mem_cons_self
    rw [List.foldlM_cons, Scanner.step_text hquote hbackslash hblank, List.reverse_cons,
      List.append_assoc]
    exact ih (fun other ho ↦ hbytes other (List.mem_cons_of_mem _ ho)) (b :: spelling)

theorem foldlM_step_of_written {c : Char} {bytes : List UInt8} (hc : Written c bytes)
    (tokens : List JsonToken) (spelling : List UInt8) :
    bytes.foldlM Scanner.step ⟨tokens, .text spelling⟩ =
      some ⟨tokens, .text (bytes.reverse ++ spelling)⟩ := by
  cases hc with
  | short _ hescape _ =>
    simp only [List.foldlM_cons, Scanner.step_text_backslash, Option.bind_eq_bind,
      Option.bind_some, Scanner.step_escape hescape]
    rfl
  | unicode _ _ hhigh hlow _ =>
    have hzero : isHexDigit 0x30 = true := rfl
    simp only [List.foldlM_cons, Scanner.step_text_backslash, Scanner.step_escape_unicode,
      Scanner.step_unicode hzero, Scanner.step_unicode hhigh, Scanner.step_unicode_zero hlow,
      Option.bind_eq_bind, Option.bind_some]
    rfl
  | plain hbytes => exact foldlM_step_bytes hbytes tokens spelling

private theorem foldlM_step_escaped (cs : List Char) (tokens : List JsonToken)
    (spelling : List UInt8) :
    (cs.flatMap escapedBytes).foldlM Scanner.step ⟨tokens, .text spelling⟩ =
      some ⟨tokens, .text ((cs.flatMap escapedBytes).reverse ++ spelling)⟩ := by
  induction cs generalizing spelling with
  | nil => rfl
  | cons c cs ih =>
    rw [List.flatMap_cons, List.foldlM_append,
      foldlM_step_of_written (written_escapedBytes c) tokens spelling, List.reverse_append,
      List.append_assoc]
    exact ih _

/-- **Scanning a string** gives one token, which keeps what stands between the quotes. -/
theorem closes_quoted (text : String) :
    Closes (0x22 :: text.toList.flatMap escapedBytes ++ [0x22])
      [.text (text.toList.flatMap escapedBytes)] := by
  intro done
  have hstart : Scanner.start done 0x22 = ⟨done, .text []⟩ := rfl
  rw [List.cons_append, List.foldlM_cons, Scanner.step_between, hstart, Option.bind_eq_bind,
    Option.bind_some, List.foldlM_append, foldlM_step_escaped, List.append_nil,
    Option.bind_eq_bind, Option.bind_some, List.foldlM_cons, Scanner.step_text_quote,
    List.reverse_reverse]
  rfl

theorem flatMap_quote (text : String) :
    (Json.quote text).flatMap String.utf8EncodeChar =
      0x22 :: text.toList.flatMap escapedBytes ++ [0x22] := by
  have hquote : String.utf8EncodeChar '"' = [0x22] := rfl
  rw [Json.quote, List.flatMap_append, List.flatMap_cons, hquote, List.flatMap_assoc]
  rfl

end LeagueStandings.JsonText
