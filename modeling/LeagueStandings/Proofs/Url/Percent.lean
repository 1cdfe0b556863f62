import LeagueStandings.Proofs.Text.Utf8
import LeagueStandings.Url.Percent

/-!
# Decoding percent-encoded text

Decoding undoes encoding, whatever follows the encoded character (`decode_encodeChar`). All that
this needs of the characters that are kept is that they are ASCII and not the percent sign.

Apart from what is kept, encoded text consists of percent signs, digits and letters
(`mem_of_mem_encode`), so no character that delimits the parts of a URL comes from encoding.
-/

namespace LeagueStandings.Percent

/-! ## Bytes -/

/-- What is known of a hexadecimal digit as it is written. -/
private theorem upperHexDigit_spec (n : Nat) : (upperHexDigit n).isAlphanum = true ∧
    ∃ b, String.utf8EncodeChar (upperHexDigit n) = [b] ∧
      hexValue? b = some (UInt8.ofNat (n % 16)) := by
  have h : ∀ n < 16, (upperHexDigit n).isAlphanum = true ∧ (upperHexDigit n).toNat < 0x80 ∧
      hexValue? (UInt8.ofNat (upperHexDigit n).toNat) = some (UInt8.ofNat n) := by decide
  have hmod : upperHexDigit (n % 16) = upperHexDigit n := by
    rw [upperHexDigit, Nat.mod_mod, upperHexDigit]
  obtain ⟨halnum, hascii, hvalue⟩ := h (n % 16) (Nat.mod_lt n (by decide))
  rw [hmod] at halnum hascii hvalue
  exact ⟨halnum, _, Utf8.utf8EncodeChar_of_lt hascii, hvalue⟩

theorem decode_code {high low x y : UInt8} (hhigh : hexValue? high = some x)
    (hlow : hexValue? low = some y) (rest : List UInt8) :
    decode (0x25 :: high :: low :: rest) = (16 * x + y) :: decode rest := by
  simp only [decode, hhigh, hlow]

theorem decode_cons_of_not_code {b : UInt8} {rest : List UInt8}
    (h : ∀ high low tail, b = 0x25 → rest = high :: low :: tail →
      hexValue? high = none ∨ hexValue? low = none) :
    decode (b :: rest) = b :: decode rest := by
  rw [decode.eq_def]
  dsimp only
  split
  · next high low tail =>
    split
    · next x y hx hy =>
      rcases h high low tail rfl rfl with hnone | hnone
      · cases hx.symm.trans hnone
      · cases hy.symm.trans hnone
    · rfl
  · rfl

theorem decode_cons_of_ne {b : UInt8} (h : b ≠ 0x25) (rest : List UInt8) :
    decode (b :: rest) = b :: decode rest :=
  decode_cons_of_not_code fun _ _ _ hb ↦ absurd hb h

/-- What begins with no digit is decoded for itself, whatever stands in front of it. -/
theorem decode_append {bytes rest : List UInt8} (h : ∀ b ∈ rest.head?, hexValue? b = none) :
    decode (bytes ++ rest) = decode bytes ++ decode rest := by
  fun_induction decode bytes with
  | case1 => rfl
  | case2 high low tail x y hy hx ih =>
    rw [List.cons_append, List.cons_append, List.cons_append, decode_code hx hy, ih,
      List.cons_append]
  | case3 high low tail hnot ih =>
    rw [List.cons_append, decode_cons_of_not_code, ih, List.cons_append]
    rintro _ _ _ - ⟨⟩
    cases hhigh : hexValue? high with
    | none => exact .inl rfl
    | some x =>
      refine .inr (Option.eq_none_iff_forall_ne_some.mpr fun y hlow ↦ ?_)
      exact hnot x y hhigh hlow
  | case4 b tail hnot ih =>
    rw [List.cons_append, decode_cons_of_not_code, ih, List.cons_append]
    intro high low after hb heq
    -- The digits cannot both be in the first part, and the second one begins with none.
    match tail, heq with
    | [], heq =>
      rw [List.nil_append] at heq
      subst heq
      exact .inl (h high rfl)
    | [_], heq =>
      rw [List.singleton_append] at heq
      obtain ⟨rfl, rfl⟩ := List.cons.inj heq
      exact .inr (h low rfl)
    | _ :: _ :: _, _ => exact absurd rfl (hnot _ _ _ hb)

theorem decode_append_of_not_mem {bytes : List UInt8} (h : 0x25 ∉ bytes) (rest : List UInt8) :
    decode (bytes ++ rest) = bytes ++ decode rest := by
  induction bytes with
  | nil => rfl
  | cons b bytes ih =>
    rw [List.mem_cons, not_or] at h
    rw [List.cons_append, decode_cons_of_ne (Ne.symm h.1), ih h.2, List.cons_append]

private theorem decode_encodeByte (b : UInt8) (rest : List UInt8) :
    decode ((encodeByte b).flatMap String.utf8EncodeChar ++ rest) = b :: decode rest := by
  obtain ⟨-, high, hhigh, hhighValue⟩ := upperHexDigit_spec (b.toNat / 16)
  obtain ⟨-, low, hlow, hlowValue⟩ := upperHexDigit_spec b.toNat
  have hpercent : String.utf8EncodeChar '%' = [0x25] := by decide
  have hbytes : (encodeByte b).flatMap String.utf8EncodeChar = [0x25, high, low] := by
    simp [encodeByte, hpercent, hhigh, hlow]
  have hvalue : 16 * UInt8.ofNat (b.toNat / 16 % 16) + UInt8.ofNat (b.toNat % 16) = b := by
    have hb := b.toNat_lt
    have hsixteen : (16 : UInt8).toNat = 16 := rfl
    rw [← UInt8.toNat_inj, UInt8.toNat_add, UInt8.toNat_mul, UInt8.toNat_ofNat',
      UInt8.toNat_ofNat', hsixteen]
    omega
  rw [hbytes]
  exact hvalue ▸ decode_code hhighValue hlowValue rest

private theorem decode_encodeBytes (bytes rest : List UInt8) :
    decode ((bytes.flatMap encodeByte).flatMap String.utf8EncodeChar ++ rest) =
      bytes ++ decode rest := by
  induction bytes with
  | nil => rfl
  | cons b bytes ih =>
    rw [List.flatMap_cons, List.flatMap_append, List.append_assoc, decode_encodeByte, ih,
      List.cons_append]

/-! ## Characters -/

theorem decode_encodeChar {keep : Char → Bool} {c : Char}
    (hkeep : keep c = true → c.toNat < 0x80 ∧ c ≠ '%') (rest : List UInt8) :
    decode ((encodeChar keep c).flatMap String.utf8EncodeChar ++ rest) =
      String.utf8EncodeChar c ++ decode rest := by
  rw [encodeChar]
  split
  · next h =>
    obtain ⟨hascii, hpercent⟩ := hkeep h
    rw [List.flatMap_singleton, Utf8.utf8EncodeChar_of_lt hascii]
    refine decode_append_of_not_mem ?_ rest
    intro hmem
    have hcode : 0x25 = c.toNat := by
      rw [List.mem_singleton, ← UInt8.toNat_inj, UInt8.toNat_ofNat'] at hmem
      exact hmem.trans (Nat.mod_eq_of_lt (Nat.lt_trans hascii (by decide)))
    exact hpercent (Char.ext (UInt32.toNat_inj.mp hcode.symm))
  · exact decode_encodeBytes _ rest

theorem head?_encodeChar_of_not {keep : Char → Bool} {c : Char} (hkeep : keep c = false)
    (hascii : c.toNat < 0x80) : (encodeChar keep c).head? = some '%' := by
  rw [encodeChar, if_neg (Bool.eq_false_iff.mp hkeep), Utf8.utf8EncodeChar_of_lt hascii]
  rfl

theorem mem_of_mem_encodeChar {keep : Char → Bool} {c sign : Char}
    (h : sign ∈ encodeChar keep c) (hsign : sign.isAlphanum = false) (hpercent : sign ≠ '%') :
    sign = c ∧ keep c = true := by
  rw [encodeChar] at h
  split at h
  · next hkeep => exact ⟨List.mem_singleton.mp h, hkeep⟩
  · obtain ⟨b, -, hb⟩ := List.mem_flatMap.mp h
    have hdigit : ∀ n, sign ≠ upperHexDigit n := by
      rintro n rfl
      exact Bool.false_ne_true (hsign.symm.trans (upperHexDigit_spec n).1)
    simp only [encodeByte, List.mem_cons, List.not_mem_nil, or_false] at hb
    rcases hb with hb | hb | hb
    · exact absurd hb hpercent
    · exact absurd hb (hdigit _)
    · exact absurd hb (hdigit _)

theorem mem_of_mem_encode {keep : Char → Bool} {cs : List Char} {sign : Char}
    (h : sign ∈ encode keep cs) (hsign : sign.isAlphanum = false) (hpercent : sign ≠ '%') :
    sign ∈ cs ∧ keep sign = true := by
  obtain ⟨c, hc, hmem⟩ := List.mem_flatMap.mp h
  obtain ⟨rfl, hkeep⟩ := mem_of_mem_encodeChar hmem hsign hpercent
  exact ⟨hc, hkeep⟩

/-! ## Lengths -/

theorem encode_append (keep : Char → Bool) (a b : List Char) :
    encode keep (a ++ b) = encode keep a ++ encode keep b := List.flatMap_append

theorem length_le_length_encode (keep : Char → Bool) (cs : List Char) :
    cs.length ≤ (encode keep cs).length := by
  induction cs with
  | nil => exact Nat.le_refl 0
  | cons c cs ih =>
    have hchar : 0 < (encodeChar keep c).length := by
      rw [encodeChar]
      split
      · exact Nat.one_pos
      · obtain ⟨b, bytes, hbytes⟩ :=
          List.exists_cons_of_ne_nil (String.utf8EncodeChar_ne_nil (c := c))
        rw [hbytes]
        exact Nat.zero_lt_succ _
    rw [encode, List.flatMap_cons, ← encode, List.length_append, List.length_cons]
    omega

end LeagueStandings.Percent
