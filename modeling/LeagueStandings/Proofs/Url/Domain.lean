import LeagueStandings.Proofs.Text.Split
import LeagueStandings.Proofs.Text.Utf8
import LeagueStandings.Proofs.Url.Percent
import LeagueStandings.Url.Domain

/-!
# Domain names without blanks

A blank or a control character in the text of a host is refused, whatever else the text holds
(`Domain.ofHost?_eq_none`). It is not decoded away and no composite takes it in, so it is still there
when the name in ASCII is looked at.
-/

namespace LeagueStandings

/-! ## Composing -/

namespace Composition

variable {n : Nat} {ns : List Nat}

theorem le_of_pair? {first second composite : Nat} (h : pair? first second = some composite) :
    0x3C ≤ first ∧ 0x300 ≤ second := by
  rw [← Nat.not_lt, ← Nat.not_lt, ← not_or]
  intro hlt
  cases (if_pos hlt : pair? first second = none).symm.trans h

theorem classOf_eq_zero (h : n < 0x300) : classOf n = 0 := by
  unfold classOf
  exact if_pos h

theorem mem_decompose (hn : n < 0x3C) : n ∈ decompose n := by
  rw [decompose, if_pos (Nat.lt_trans hn (by decide))]
  exact List.mem_singleton_self n

theorem mem_insertMark {mark : Nat} : n ∈ insertMark mark ns ↔ n = mark ∨ n ∈ ns := by
  induction ns with
  | nil => rw [insertMark, List.mem_singleton, or_iff_left List.not_mem_nil]
  | cons other ns ih =>
    rw [insertMark]
    split
    · rw [List.mem_cons]
    · rw [List.mem_cons, List.mem_cons, ih]
      exact or_left_comm

theorem mem_order {marks : List Nat} : n ∈ order marks ns ↔ n ∈ marks ∨ n ∈ ns := by
  induction ns generalizing marks with
  | nil => rw [order, or_iff_left List.not_mem_nil]
  | cons other ns ih =>
    rw [order, List.mem_cons]
    split
    · rw [List.mem_append, List.mem_cons, ih, or_iff_right List.not_mem_nil]
    · rw [ih, mem_insertMark, or_assoc, or_left_comm]

/-- A character below `<` stays when a letter is put together with what follows it. -/
theorem mem_join {letter : Nat} {between : List Nat} (hn : n < 0x3C)
    (h : n = letter ∨ n ∈ between ∨ n ∈ ns) : n ∈ join letter between ns := by
  induction ns generalizing letter between with
  | nil => simpa [join] using h
  | cons next ns ih =>
    unfold join
    dsimp only
    rw [List.mem_cons] at h
    split
    · next composite hcomposite =>
      obtain ⟨-, hpair⟩ := Option.ite_none_right_eq_some.mp hcomposite
      obtain ⟨hletter, hnext⟩ := le_of_pair? hpair
      refine ih (.inr ?_)
      rcases h with rfl | h | rfl | h
      · exact absurd hletter (Nat.not_le.mpr hn)
      · exact .inl h
      · omega
      · exact .inr h
    · split
      · rw [List.cons_append, List.mem_cons, List.mem_append, List.mem_reverse]
        rcases h with rfl | h | h
        · exact .inl rfl
        · exact .inr (.inl h)
        · exact .inr (.inr (ih (h.imp_right .inr)))
      · refine ih ?_
        rw [List.mem_cons]
        rcases h with h | h | h | h
        · exact .inl h
        · exact .inr (.inl (.inr h))
        · exact .inr (.inl (.inl h))
        · exact .inr (.inr h)

theorem mem_compose (hn : n < 0x3C) (h : n ∈ ns) : n ∈ compose ns := by
  have hordered : n ∈ order [] (ns.flatMap decompose) :=
    mem_order.mpr (.inr (List.mem_flatMap.mpr ⟨n, h, mem_decompose hn⟩))
  have hkept : n ∈ (order [] (ns.flatMap decompose)).dropWhile (classOf · != 0) := by
    refine Text.mem_dropWhile_of_mem hordered ?_
    rw [classOf_eq_zero (Nat.lt_trans hn (by decide)), bne_self_eq_false]
  unfold compose
  dsimp only
  split
  · next hnil =>
    rw [hnil] at hkept
    cases hkept
  · next letter rest hcons =>
    rw [hcons, List.mem_cons] at hkept
    exact List.mem_append_right _ (mem_join hn (hkept.imp_right .inr))

end Composition

/-! ## Labels -/

namespace Punycode

theorem prefix_output_foldl (basic due : Nat) (e : Encoder) (text : List Nat) :
    e.output <+: (text.foldl (Encoder.step basic due) e).output := by
  induction text generalizing e with
  | nil => exact List.prefix_refl _
  | cons n text ih =>
    refine List.IsPrefix.trans ?_ (ih _)
    unfold Encoder.step
    split
    · exact List.prefix_refl _
    · split
      · exact List.prefix_append _ _
      · exact List.prefix_refl _

theorem prefix_encodeFrom (text : List Nat) (basic passed : Nat) (e : Encoder) (due : List Nat) :
    e.output <+: encodeFrom text basic passed e due := by
  induction due generalizing passed e with
  | nil => exact List.prefix_refl _
  | cons n due ih =>
    rw [encodeFrom]
    refine List.IsPrefix.trans ?_ (ih (n + 1) _)
    exact prefix_output_foldl basic n
      { e with delta := e.delta + (n - passed) * (e.handled + 1) } text

theorem mem_encode {n : Nat} {text : List Nat} (hn : n < 0x80) (h : n ∈ text) :
    n ∈ encode text := by
  have hbasic : n ∈ text.filter (· < 0x80) := List.mem_filter.mpr ⟨h, decide_eq_true hn⟩
  unfold encode
  dsimp only
  rw [if_neg (List.ne_nil_of_mem hbasic)]
  exact (prefix_encodeFrom _ _ _ _ _).subset (List.mem_append_left _ hbasic)

end Punycode

theorem DomainLabel.mem_encode {n : Nat} {label : List Nat} (hn : n < 0x80) (h : n ∈ label) :
    n ∈ encode label := by
  unfold encode
  split
  · exact h
  · exact List.mem_append_right _ (Punycode.mem_encode hn h)

/-! ## Names -/

namespace Domain

variable {n : Nat} {name : List Nat} {labels : List (List Nat)}

private theorem mem_of_mapM {f : Nat → Option (List Nat)} {ns : List Nat}
    {results : List (List Nat)} {result : List Nat} (h : ns.mapM f = some results) (hn : n ∈ ns)
    (hresult : f n = some result) : result ∈ results := by
  induction ns generalizing results with
  | nil => cases hn
  | cons m ns ih =>
    rw [List.mapM_cons] at h
    obtain ⟨first, hfirst, h⟩ := Option.bind_eq_some_iff.mp h
    obtain ⟨others, hothers, h⟩ := Option.bind_eq_some_iff.mp h
    cases h
    rcases List.mem_cons.mp hn with rfl | hn
    · cases hresult.symm.trans hfirst
      exact List.mem_cons_self
    · exact List.mem_cons_of_mem _ (ih hothers hn)

private theorem mem_intercalate {sep piece : List Nat} {pieces : List (List Nat)}
    (hpiece : piece ∈ pieces) (hn : n ∈ piece) : n ∈ sep.intercalate pieces := by
  induction pieces with
  | nil => cases hpiece
  | cons first pieces ih =>
    cases pieces with
    | nil =>
      rw [List.intercalate_singleton, ← List.mem_singleton.mp hpiece]
      exact hn
    | cons next pieces =>
      rw [List.intercalate_cons_cons, List.mem_append, List.mem_append]
      rcases List.mem_cons.mp hpiece with rfl | hpiece
      · exact .inl (.inl hn)
      · exact .inr (ih hpiece)

private theorem ofNat_of_le :
    ∀ n < 0x21, (Char.ofNat n).toNat = n ∧ (Char.ofNat n == '.') = false := by
  decide

theorem exists_mem_labels? (hn : n ≤ 0x20) (h : n ∈ name) (hlabels : labels? name = some labels) :
    ∃ label ∈ labels, n ∈ label := by
  obtain ⟨mapped, hmapped, hlabels⟩ := Option.bind_eq_some_iff.mp hlabels
  have hmap : DomainMapping.mapChar? n = some [n] := by
    rw [DomainMapping.mapChar?, if_pos (by omega), if_neg (by omega)]
  have hmem : n ∈ mapped.flatten :=
    List.mem_flatten_of_mem (mem_of_mapM hmapped h hmap) (List.mem_singleton_self n)
  obtain ⟨hcode, hdot⟩ := ofNat_of_le n (Nat.lt_succ_of_le hn)
  have hcomposed : Char.ofNat n ∈ (Composition.compose mapped.flatten).map Char.ofNat :=
    List.mem_map_of_mem (Composition.mem_compose (by omega) hmem)
  obtain ⟨piece, hpiece, hc⟩ := Text.exists_mem_splitAt (p := (· == '.')) hcomposed hdot
  cases hlabels
  exact ⟨_, List.mem_map_of_mem hpiece, List.mem_map.mpr ⟨_, hc, hcode⟩⟩

theorem toAscii?_eq_none (hn : n ≤ 0x20) (h : n ∈ name) : toAscii? name = none := by
  refine Option.eq_none_iff_forall_ne_some.mpr fun ascii hascii ↦ ?_
  obtain ⟨labels, hlabels, hascii⟩ := Option.bind_eq_some_iff.mp hascii
  obtain ⟨decoded, -, hascii⟩ := Option.bind_eq_some_iff.mp hascii
  obtain ⟨label, hlabel, hmem⟩ := exists_mem_labels? hn h hlabels
  have hkept : n ∈ [0x2E].intercalate (labels.map DomainLabel.encode) :=
    mem_intercalate (List.mem_map_of_mem hlabel) (DomainLabel.mem_encode (by omega) hmem)
  have hforbidden : isForbidden n = true := by
    rw [isForbidden, decide_eq_true hn]
    rfl
  have hany : ([0x2E].intercalate (labels.map DomainLabel.encode)).any isForbidden = true :=
    List.any_eq_true.mpr ⟨n, hkept, hforbidden⟩
  dsimp only at hascii
  rw [hany, Bool.not_true, Bool.and_false, if_neg Bool.false_ne_true] at hascii
  cases hascii

theorem mem_decode {b : UInt8} {bytes : List UInt8} (hb : b ≤ 0x20) (h : b ∈ bytes) :
    b ∈ Percent.decode bytes := by
  have hdigit : Percent.hexValue? b = none ∧ b ≠ 0x25 := by
    have hall : ∀ n < 0x21, Percent.hexValue? (UInt8.ofNat n) = none ∧ UInt8.ofNat n ≠ 0x25 := by
      decide
    rw [← UInt8.ofNat_toNat (x := b)]
    exact hall _ (Nat.lt_succ_of_le hb)
  obtain ⟨front, behind, rfl⟩ := List.append_of_mem h
  rw [Percent.decode_append (by rintro _ ⟨⟩; exact hdigit.1),
    Percent.decode_cons_of_ne hdigit.2]
  exact List.mem_append_right _ List.mem_cons_self

/-- **No domain has a blank**, and none has a control character. -/
theorem ofHost?_eq_none {host : List Char} {c : Char} (hc : c.toNat ≤ 0x20) (h : c ∈ host) :
    ofHost? host = none := by
  have hascii : c.toNat < 0x80 := Nat.lt_of_le_of_lt hc (by decide)
  have hcode : (UInt8.ofNat c.toNat).toNat = c.toNat := by
    rw [UInt8.toNat_ofNat', Nat.mod_eq_of_lt (Nat.lt_trans hascii (by decide))]
  have hbyte : UInt8.ofNat c.toNat ∈ Percent.decode (Utf8.encode (String.ofList host)) := by
    refine mem_decode (UInt8.le_iff_toNat_le.mpr (hcode.symm ▸ hc)) ?_
    rw [Utf8.encode_ofList]
    refine List.mem_flatMap.mpr ⟨c, h, ?_⟩
    rw [Utf8.utf8EncodeChar_of_lt hascii]
    exact List.mem_singleton_self _
  refine Option.eq_none_iff_forall_ne_some.mpr fun name hname ↦ ?_
  obtain ⟨text, htext, hname⟩ := Option.bind_eq_some_iff.mp hname
  obtain ⟨ns, hns, -⟩ := Option.bind_eq_some_iff.mp hname
  rw [← Utf8.encode_of_decode? htext, Utf8.encode_eq] at hbyte
  obtain ⟨d, hd, hbyte⟩ := List.mem_flatMap.mp hbyte
  have hsame : d.toNat = c.toNat := by
    rcases Nat.lt_or_ge d.toNat 0x80 with hlt | hge
    · rw [Utf8.utf8EncodeChar_of_lt hlt, List.mem_singleton, ← UInt8.toNat_inj, hcode,
        UInt8.toNat_ofNat', Nat.mod_eq_of_lt (Nat.lt_trans hlt (by decide))] at hbyte
      exact hbyte.symm
    · exact absurd (Utf8.le_of_mem_utf8EncodeChar hge _ hbyte) (by omega)
  rw [toAscii?_eq_none hc (List.mem_map.mpr ⟨d, hd, hsame⟩)] at hns
  cases hns

end Domain

end LeagueStandings
