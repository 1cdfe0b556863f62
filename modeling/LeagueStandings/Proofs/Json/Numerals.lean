import LeagueStandings.Json.Decoder
import LeagueStandings.Json.Writer
import LeagueStandings.Proofs.Binary64.ReadBack

/-!
# Numerals as they are written

Every number is written as the spelling of a numeral: an integer as one without point and exponent
(`integerNumeral`), a real number as one that has a point or an exponent, or both
(`Decimal.Spells`). Reading a spelling gives the numeral back (`ofChars?_spelling`), and the
numerals that are written are among those that JSON allows.

Layout loses nothing of the number. The layouts of a decimal differ in where the point stands and in
zeros at either end, and all of them round to the same number (`exists_spelling_realChars`).
-/

namespace LeagueStandings

namespace Numeral

/-! ## Spelling -/

/-- The point and the digits behind it, if there is a point. -/
def fractionChars : Option (List Char) → List Char
  | none => []
  | some digits => '.' :: digits

/-- The mark and the digits of the exponent, if there is one. -/
def exponentChars : Option (Option Char × List Char) → List Char
  | none => []
  | some (sign, digits) => 'e' :: (sign.toList ++ digits)

/-- The characters of a numeral. -/
def spelling (n : Numeral) : List Char :=
  n.sign.toList ++ (n.whole ++ (fractionChars n.fraction ++ exponentChars n.exponent))

/-- The signs are signs and the digits are digits. -/
structure WellFormed (n : Numeral) : Prop where
  sign : ∀ c ∈ n.sign, c = '+' ∨ c = '-'
  whole : ∀ c ∈ n.whole, c.isDigit = true
  fraction : ∀ digits ∈ n.fraction, ∀ c ∈ digits, c.isDigit = true
  exponentSign : ∀ exponent ∈ n.exponent, ∀ c ∈ exponent.1, c = '+' ∨ c = '-'
  exponentDigits : ∀ exponent ∈ n.exponent, exponent.2 ≠ [] ∧ ∀ c ∈ exponent.2, c.isDigit = true

private theorem takeSign_of_head? {cs : List Char} (hplus : cs.head? ≠ some '+')
    (hminus : cs.head? ≠ some '-') : takeSign cs = (none, cs) := by
  unfold takeSign
  split
  · exact absurd rfl hplus
  · exact absurd rfl hminus
  · rfl

private theorem takeSign_append {sign : Option Char} {rest : List Char}
    (hsign : ∀ c ∈ sign, c = '+' ∨ c = '-') (hplus : rest.head? ≠ some '+')
    (hminus : rest.head? ≠ some '-') : takeSign (sign.toList ++ rest) = (sign, rest) := by
  cases sign with
  | none => exact takeSign_of_head? hplus hminus
  | some c => rcases hsign c rfl with rfl | rfl <;> rfl

private theorem head?_ne_of_isDigit {cs : List Char} (h : ∀ c ∈ cs.head?, c.isDigit = true)
    {sign : Char} (hsign : sign.isDigit = false) : cs.head? ≠ some sign := by
  intro hhead
  rw [h sign hhead] at hsign
  cases hsign

theorem exponentOfChars?_exponentChars {exponent : Option (Option Char × List Char)}
    (hsign : ∀ e ∈ exponent, ∀ c ∈ e.1, c = '+' ∨ c = '-')
    (hdigits : ∀ e ∈ exponent, e.2 ≠ [] ∧ ∀ c ∈ e.2, c.isDigit = true) :
    exponentOfChars? (exponentChars exponent) = some exponent := by
  cases exponent with
  | none => rfl
  | some e =>
    obtain ⟨sign, digits⟩ := e
    obtain ⟨hne, hall⟩ := hdigits _ rfl
    have hhead : ∀ c ∈ digits.head?, c.isDigit = true :=
      fun c hc ↦ hall c (List.mem_of_mem_head? hc)
    rw [exponentChars, exponentOfChars?, takeSign_append (hsign _ rfl)
      (head?_ne_of_isDigit hhead rfl) (head?_ne_of_isDigit hhead rfl)]
    exact if_pos ⟨.inl rfl, hne, List.all_eq_true.mpr hall⟩

private theorem takeWhile_isDigit_append {digits rest : List Char}
    (hdigits : ∀ c ∈ digits, c.isDigit = true) (hrest : ∀ c ∈ rest.head?, c.isDigit = false) :
    (digits ++ rest).takeWhile Char.isDigit = digits ∧
      (digits ++ rest).dropWhile Char.isDigit = rest := by
  rw [List.takeWhile_append_of_pos hdigits, List.dropWhile_append_of_pos hdigits]
  cases rest with
  | nil => exact ⟨List.append_nil digits, rfl⟩
  | cons c rest =>
    have hc : ¬ c.isDigit = true := by rw [hrest c rfl]; exact Bool.false_ne_true
    rw [List.takeWhile_cons_of_neg hc, List.dropWhile_cons_of_neg hc, List.append_nil]
    exact ⟨rfl, rfl⟩

private theorem head?_exponentChars (exponent : Option (Option Char × List Char)) :
    ∀ c ∈ (exponentChars exponent).head?, c = 'e' := by
  cases exponent with
  | none => exact fun c hc ↦ nomatch hc
  | some e => exact fun c hc ↦ (Option.some.inj hc).symm

private theorem head?_tail {n : Numeral} :
    ∀ c ∈ (fractionChars n.fraction ++ exponentChars n.exponent).head?, c = '.' ∨ c = 'e' := by
  cases n.fraction with
  | none => exact fun c hc ↦ .inr (head?_exponentChars _ c hc)
  | some digits => exact fun c hc ↦ .inl (Option.some.inj hc).symm

private theorem head?_digits_append {digits rest : List Char} {c : Char}
    (hdigits : ∀ c ∈ digits, c.isDigit = true) (h : c ∈ (digits ++ rest).head?) :
    c.isDigit = true ∨ c ∈ rest.head? := by
  cases digits with
  | nil => exact .inr h
  | cons digit digits => exact .inl (Option.some.inj h ▸ hdigits digit List.mem_cons_self)

/-- **Reading a spelling** gives the numeral that was spelled. -/
theorem ofChars?_spelling {n : Numeral} (h : n.WellFormed) : ofChars? n.spelling = some n := by
  have hhead : ∀ sign : Char, sign.isDigit = false → sign ≠ '.' → sign ≠ 'e' →
      (n.whole ++ (fractionChars n.fraction ++ exponentChars n.exponent)).head? ≠ some sign := by
    intro sign hsign hpoint he hc
    rcases head?_digits_append h.whole hc with hd | ht
    · rw [hsign] at hd
      cases hd
    · exact (head?_tail sign ht).elim hpoint he
  -- The digits end where the point or the mark of the exponent stands.
  have htail : ∀ c ∈ (fractionChars n.fraction ++ exponentChars n.exponent).head?,
      c.isDigit = false := by
    intro c hc
    rcases head?_tail c hc with rfl | rfl <;> rfl
  obtain ⟨htake, hdrop⟩ := takeWhile_isDigit_append h.whole htail
  have hexponent := exponentOfChars?_exponentChars h.exponentSign h.exponentDigits
  rw [ofChars?, spelling, takeSign_append h.sign (hhead '+' rfl (by decide) (by decide))
    (hhead '-' rfl (by decide) (by decide))]
  dsimp only
  rw [htake, hdrop]
  obtain ⟨sign, whole, fraction, exponent⟩ := n
  cases fraction with
  | none =>
    simp only [fractionChars, List.nil_append]
    split
    · next rest hrest =>
      have hmark := head?_exponentChars exponent '.' (by rw [hrest]; rfl)
      exact absurd hmark (by decide)
    · rw [hexponent]
      rfl
  | some digits =>
    have hdigits : ∀ c ∈ digits, c.isDigit = true := h.fraction digits rfl
    have hmark : ∀ c ∈ (exponentChars exponent).head?, c.isDigit = false :=
      fun c hc ↦ head?_exponentChars exponent c hc ▸ rfl
    obtain ⟨htake', hdrop'⟩ := takeWhile_isDigit_append hdigits hmark
    simp only [fractionChars, List.cons_append, htake', hdrop', hexponent, Option.map_some]

theorem isJson_iff {n : Numeral} :
    n.isJson = true ↔ n.sign ≠ some '+' ∧ n.whole ≠ [] ∧
      (n.whole = ['0'] ∨ n.whole.head? ≠ some '0') ∧ n.fraction ≠ some [] := by
  simp [isJson, and_assoc]

end Numeral

/-! ## Integers -/

/-- The numeral of an integer. -/
def integerNumeral (value : Int) : Numeral :=
  ⟨if value < 0 then some '-' else none, Nat.toDigits 10 value.natAbs, none, none⟩

private theorem sign_of_ite {p : Prop} [Decidable p] :
    ∀ c ∈ (if p then some '-' else none : Option Char), c = '+' ∨ c = '-' := by
  intro c hc
  split at hc
  · exact .inr (Option.some.inj hc).symm
  · cases hc

private theorem sign_ne_plus {p : Prop} [Decidable p] :
    (if p then some '-' else none : Option Char) ≠ some '+' := by
  split <;> decide

private theorem isDigit_toDigits (n : Nat) : ∀ c ∈ Nat.toDigits 10 n, c.isDigit = true :=
  fun _ hc ↦ Nat.isDigit_of_mem_toDigits (by decide) (by decide) hc

theorem head?_toDigits_ne {n : Nat} (h : n ≠ 0) : (Nat.toDigits 10 n).head? ≠ some '0' := by
  induction n using Nat.base_induction 10 (by decide) with
  | single m hm =>
    rw [Nat.toDigits_of_lt_base hm, List.head?_cons]
    exact fun hc ↦ h (Nat.digitChar_eq_zero.mp (Option.some.inj hc))
  | digit m k hk hm ih =>
    obtain ⟨c, cs, hdigits⟩ := List.exists_cons_of_ne_nil (Nat.toDigits_ne_nil (n := m) (b := 10))
    have hhead := ih (Nat.ne_of_gt hm)
    rw [hdigits] at hhead
    rw [← Nat.toDigits_append_toDigits (by decide) hm hk, hdigits]
    exact hhead

theorem integerChars_eq (value : Int) :
    Text.integerChars value = (integerNumeral value).spelling := by
  rw [Text.integerChars, integerNumeral, Numeral.spelling, Numeral.fractionChars,
    Numeral.exponentChars, List.append_nil, List.append_nil]
  split <;> rfl

theorem wellFormed_integerNumeral (value : Int) : (integerNumeral value).WellFormed where
  sign := sign_of_ite
  whole := isDigit_toDigits _
  fraction := fun _ h ↦ nomatch h
  exponentSign := fun _ h ↦ nomatch h
  exponentDigits := fun _ h ↦ nomatch h

theorem isNegative_integerNumeral (value : Int) :
    (integerNumeral value).isNegative = decide (value < 0) := by
  rw [Numeral.isNegative, integerNumeral]
  by_cases h : value < 0
  · rw [if_pos h, decide_eq_true h]
    rfl
  · rw [if_neg h, decide_eq_false h]
    rfl

theorem integer_integerNumeral (value : Int) : (integerNumeral value).integer = value := by
  have hwhole : (integerNumeral value).wholeValue = value.natAbs := Nat.ofDigitChars_ten_toDigits
  rw [Numeral.integer, hwhole, isNegative_integerNumeral]
  by_cases h : value < 0
  · rw [if_pos (decide_eq_true h)]
    omega
  · rw [if_neg (by simpa using h)]
    omega

private theorem toDigits_eq_or_head?_ne (n : Nat) :
    Nat.toDigits 10 n = ['0'] ∨ (Nat.toDigits 10 n).head? ≠ some '0' := by
  by_cases h : n = 0
  · exact .inl (h ▸ Nat.toDigits_zero 10)
  · exact .inr (head?_toDigits_ne h)

theorem isJson_integerNumeral (value : Int) : (integerNumeral value).isJson = true := by
  exact Numeral.isJson_iff.mpr
    ⟨sign_ne_plus, Nat.toDigits_ne_nil, toDigits_eq_or_head?_ne _, fun h ↦ nomatch h⟩

/-! ## Real numbers -/

namespace Decimal

/-- The numeral is one that JSON reads as a real number, and it rounds to the number that the
decimal rounds to. -/
structure Spells (d : Decimal) (n : Numeral) : Prop where
  wellFormed : n.WellFormed
  isJson : n.isJson = true
  isPlain : n.isPlain = false
  binary64 : n.binary64 = Binary64.ofDecimal d

/-- The sign of a decimal. -/
def sign (d : Decimal) : Option Char := if d.negative then some '-' else none

variable {d : Decimal}

theorem signChars_eq : d.signChars = d.sign.toList := by
  rw [signChars, sign]
  split <;> rfl

private theorem isDigit_digits : ∀ c ∈ d.digits, c.isDigit = true := isDigit_toDigits _

private theorem isDigit_zeros (count : Int) : ∀ c ∈ zeros count, c.isDigit = true :=
  fun _ hc ↦ List.eq_of_mem_replicate hc ▸ rfl

/-- The number of a numeral with the sign of the decimal and the given digits and exponent. -/
private theorem decimal_eq {whole : List Char} {fraction : Option (List Char)}
    {exponent : Option (Option Char × List Char)} {coefficient : Nat} {power : Int}
    (hcoefficient : Nat.ofDigitChars 10 (whole ++ fraction.getD []) 0 = coefficient)
    (hpower : (⟨d.sign, whole, fraction, exponent⟩ : Numeral).exponentValue -
      (fraction.getD []).length = power) :
    (⟨d.sign, whole, fraction, exponent⟩ : Numeral).decimal = ⟨d.negative, coefficient, power⟩ := by
  have hnegative : (⟨d.sign, whole, fraction, exponent⟩ : Numeral).isNegative = d.negative := by
    rw [Numeral.isNegative, sign]
    cases d.negative <;> rfl
  rw [Numeral.decimal, hnegative]
  dsimp only
  rw [hcoefficient, hpower]

/-- Digits on both sides of a point are a numeral of JSON if no superfluous zero leads them. -/
private theorem spells_of_point {whole fraction : List Char}
    (hwhole : ∀ c ∈ whole, c.isDigit = true) (hfraction : ∀ c ∈ fraction, c.isDigit = true)
    (hwhole_ne : whole ≠ []) (hleading : whole = ['0'] ∨ whole.head? ≠ some '0')
    (hfraction_ne : fraction ≠ [])
    (hbinary64 : (⟨d.sign, whole, some fraction, none⟩ : Numeral).binary64 =
      Binary64.ofDecimal d) :
    d.Spells ⟨d.sign, whole, some fraction, none⟩ where
  wellFormed :=
    { sign := sign_of_ite
      whole := hwhole
      fraction := fun _ h ↦ Option.some.inj h ▸ hfraction
      exponentSign := fun _ h ↦ nomatch h
      exponentDigits := fun _ h ↦ nomatch h }
  isJson := Numeral.isJson_iff.mpr
    ⟨sign_ne_plus, hwhole_ne, hleading, fun h ↦ hfraction_ne (Option.some.inj h)⟩
  isPlain := rfl
  binary64 := hbinary64

private theorem isDigit_singleton_zero : ∀ c ∈ ['0'], c.isDigit = true :=
  List.all_eq_true.mp rfl

private theorem spells_zero (h : d.coefficient = 0) :
    d.Spells ⟨d.sign, ['0'], some ['0'], none⟩ := by
  refine spells_of_point isDigit_singleton_zero isDigit_singleton_zero (by decide) (.inl rfl)
    (by decide) ?_
  have hdecimal : (⟨d.sign, ['0'], some ['0'], none⟩ : Numeral).decimal = ⟨d.negative, 0, -1⟩ :=
    decimal_eq rfl rfl
  rw [Numeral.binary64, hdecimal, Binary64.ofDecimal, Binary64.ofDecimal, h]
  rfl

private theorem ofDigitChars_digits : Nat.ofDigitChars 10 d.digits 0 = d.coefficient :=
  Nat.ofDigitChars_ten_toDigits

private theorem spells_whole (hne : d.coefficient ≠ 0) (h : 0 ≤ d.exponent) :
    d.Spells ⟨d.sign, d.digits ++ zeros d.exponent, some ['0'], none⟩ := by
  have hdigits : ∀ c ∈ d.digits ++ zeros d.exponent, c.isDigit = true := by
    intro c hc
    exact (List.mem_append.mp hc).elim (isDigit_digits c) (isDigit_zeros _ c)
  obtain ⟨c, cs, hcons⟩ := List.exists_cons_of_ne_nil (Nat.toDigits_ne_nil (n := d.coefficient)
    (b := 10))
  have hhead : (d.digits ++ zeros d.exponent).head? ≠ some '0' := by
    have hfirst := head?_toDigits_ne hne
    rw [hcons] at hfirst
    rw [digits, hcons]
    exact hfirst
  refine spells_of_point hdigits isDigit_singleton_zero (by simp [digits, hcons]) (.inr hhead)
    (by decide) ?_
  have hcoefficient : Nat.ofDigitChars 10 (d.digits ++ zeros d.exponent ++ ['0']) 0 =
      d.coefficient * 10 ^ (d.exponent.toNat + 1) := by
    rw [Nat.ofDigitChars_append, Nat.ofDigitChars_append, ofDigitChars_digits, zeros,
      Nat.ofDigitChars_replicate_zero, Nat.ofDigitChars_cons, Nat.ofDigitChars_nil, Nat.sub_self,
      Nat.add_zero, Nat.pow_succ, Nat.mul_comm 10, Nat.mul_comm (10 ^ _), Nat.mul_assoc]
  have hpower : d.exponent - (d.exponent.toNat + 1 : Nat) = -1 := by omega
  rw [Numeral.binary64, decimal_eq hcoefficient rfl]
  have hshift := Binary64.ofDecimal_mul_pow d.negative d.coefficient (d.exponent.toNat + 1)
    d.exponent
  rw [hpower] at hshift
  exact hshift

private theorem digits_ne_nil : d.digits ≠ [] := Nat.toDigits_ne_nil

private theorem head?_take_digits_ne (hne : d.coefficient ≠ 0) {split : Nat} (h : 0 < split) :
    (d.digits.take split).head? ≠ some '0' := by
  rw [List.head?_take, if_neg (Nat.ne_of_gt h)]
  exact head?_toDigits_ne hne

private theorem take_digits_ne_nil {split : Nat} (h : 0 < split) : d.digits.take split ≠ [] := by
  rw [ne_eq, List.take_eq_nil_iff, not_or]
  exact ⟨Nat.ne_of_gt h, digits_ne_nil⟩

private theorem spells_split (hne : d.coefficient ≠ 0) (h : d.exponent < 0) (hscale : 0 < d.scale) :
    d.Spells ⟨d.sign, d.digits.take d.scale.toNat, some (d.digits.drop d.scale.toNat), none⟩ := by
  have hdefinition : d.scale = d.digits.length + d.exponent := rfl
  have hsplit : 0 < d.scale.toNat := by omega
  have hdrop : d.digits.drop d.scale.toNat ≠ [] := by
    rw [ne_eq, List.drop_eq_nil_iff]
    omega
  refine spells_of_point (fun c hc ↦ isDigit_digits c (List.mem_of_mem_take hc))
    (fun c hc ↦ isDigit_digits c (List.mem_of_mem_drop hc)) (take_digits_ne_nil hsplit)
    (.inr (head?_take_digits_ne hne hsplit)) hdrop ?_
  have hcoefficient : Nat.ofDigitChars 10
      (d.digits.take d.scale.toNat ++ d.digits.drop d.scale.toNat) 0 = d.coefficient := by
    rw [List.take_append_drop, ofDigitChars_digits]
  have hpower : (0 : Int) - (d.digits.drop d.scale.toNat).length = d.exponent := by
    rw [List.length_drop]
    omega
  have hdecimal : (⟨d.sign, d.digits.take d.scale.toNat, some (d.digits.drop d.scale.toNat), none⟩ :
      Numeral).decimal = d := decimal_eq hcoefficient hpower
  rw [Numeral.binary64, hdecimal]

private theorem spells_small (h : d.scale ≤ 0) :
    d.Spells ⟨d.sign, ['0'], some (zeros (-d.scale) ++ d.digits), none⟩ := by
  have hdefinition : d.scale = d.digits.length + d.exponent := rfl
  refine spells_of_point isDigit_singleton_zero
    (fun c hc ↦ (List.mem_append.mp hc).elim (isDigit_zeros _ c) (isDigit_digits c)) (by decide)
    (.inl rfl) (List.append_ne_nil_of_right_ne_nil _ digits_ne_nil) ?_
  have hcoefficient : Nat.ofDigitChars 10 (['0'] ++ (zeros (-d.scale) ++ d.digits)) 0 =
      d.coefficient := by
    rw [Nat.ofDigitChars_append, Nat.ofDigitChars_append, zeros, Nat.ofDigitChars_replicate_zero]
    exact ofDigitChars_digits
  have hpower : (0 : Int) - (zeros (-d.scale) ++ d.digits).length = d.exponent := by
    rw [List.length_append, zeros, List.length_replicate]
    omega
  have hdecimal : (⟨d.sign, ['0'], some (zeros (-d.scale) ++ d.digits), none⟩ : Numeral).decimal =
      d := decimal_eq hcoefficient hpower
  rw [Numeral.binary64, hdecimal]

/-- The exponent of a number in scientific notation, with its sign. -/
private def power (d : Decimal) : Option Char × List Char :=
  (some (if d.scale - 1 < 0 then '-' else '+'), Nat.toDigits 10 (d.scale - 1).natAbs)

/-- The digits after the first, if there are any. -/
private def rest (d : Decimal) : Option (List Char) :=
  if d.digits.drop 1 = [] then none else some (d.digits.drop 1)

private theorem getD_rest : d.rest.getD [] = d.digits.drop 1 := by
  rw [rest]
  split
  · next h => exact h.symm
  · rfl

private theorem fractionChars_rest :
    Numeral.fractionChars d.rest =
      if d.digits.drop 1 = [] then [] else '.' :: d.digits.drop 1 := by
  rw [rest]
  split <;> rfl

private theorem mem_rest {digits : List Char} (h : digits ∈ d.rest) :
    digits = d.digits.drop 1 ∧ digits ≠ [] := by
  rw [rest] at h
  split at h
  · cases h
  · next hne =>
    cases h
    exact ⟨rfl, hne⟩

private theorem spells_scientific (hne : d.coefficient ≠ 0) :
    d.Spells ⟨d.sign, d.digits.take 1, d.rest, some d.power⟩ where
  wellFormed :=
    { sign := sign_of_ite
      whole := fun c hc ↦ isDigit_digits c (List.mem_of_mem_take hc)
      fraction := fun _ h c hc ↦ isDigit_digits c (List.mem_of_mem_drop ((mem_rest h).1 ▸ hc))
      exponentSign := by
        intro e he c hc
        cases he
        cases hc
        split
        · exact .inr rfl
        · exact .inl rfl
      exponentDigits := by
        intro e he
        cases he
        exact ⟨Nat.toDigits_ne_nil, isDigit_toDigits _⟩ }
  isJson := Numeral.isJson_iff.mpr ⟨sign_ne_plus, take_digits_ne_nil Nat.one_pos,
    .inr (head?_take_digits_ne hne Nat.one_pos), fun h ↦ (mem_rest h).2 rfl⟩
  isPlain := Bool.and_false _
  binary64 := by
    have hcoefficient : Nat.ofDigitChars 10 (d.digits.take 1 ++ d.rest.getD []) 0 =
        d.coefficient := by
      rw [getD_rest, List.take_append_drop, ofDigitChars_digits]
    have hvalue : (⟨d.sign, d.digits.take 1, d.rest, some d.power⟩ : Numeral).exponentValue =
        d.scale - 1 := by
      rw [Numeral.exponentValue]
      dsimp only [power]
      rw [Nat.ofDigitChars_ten_toDigits]
      by_cases hnegative : d.scale - 1 < 0
      · rw [if_pos hnegative, if_pos rfl]
        omega
      · rw [if_neg hnegative, if_neg (by decide)]
        omega
    have hlength : 0 < d.digits.length := List.length_pos_iff.mpr digits_ne_nil
    have hdefinition : d.scale = d.digits.length + d.exponent := rfl
    have hpower : (⟨d.sign, d.digits.take 1, d.rest, some d.power⟩ : Numeral).exponentValue -
        (d.rest.getD []).length = d.exponent := by
      rw [hvalue, getD_rest, List.length_drop]
      omega
    have hdecimal : (⟨d.sign, d.digits.take 1, d.rest, some d.power⟩ : Numeral).decimal = d :=
      decimal_eq hcoefficient hpower
    rw [Numeral.binary64, hdecimal]

end Decimal

/-- **Real numbers as written.** The text of a decimal spells a real number of JSON that rounds as
the decimal does. -/
theorem exists_spelling_realChars (d : Decimal) :
    ∃ n : Numeral, d.Spells n ∧ n.spelling = JsonNumber.realChars d := by
  rw [JsonNumber.realChars]
  split
  · next h =>
    refine ⟨_, Decimal.spells_zero h, ?_⟩
    rw [Decimal.signChars_eq]
    rfl
  next hne =>
  split
  · rw [Decimal.positional, Decimal.signChars_eq]
    dsimp only
    split
    · next h =>
      refine ⟨_, Decimal.spells_whole hne h, ?_⟩
      simp [Numeral.spelling, Numeral.fractionChars, Numeral.exponentChars]
    next h =>
    split
    · next hscale =>
      refine ⟨_, Decimal.spells_split hne (Int.not_le.mp h) hscale, ?_⟩
      simp [Numeral.spelling, Numeral.fractionChars, Numeral.exponentChars]
    · next hscale =>
      refine ⟨_, Decimal.spells_small (Int.not_lt.mp hscale), ?_⟩
      simp [Numeral.spelling, Numeral.fractionChars, Numeral.exponentChars]
  · refine ⟨_, Decimal.spells_scientific hne, ?_⟩
    rw [Decimal.scientific, Decimal.signChars_eq, Numeral.spelling, Decimal.fractionChars_rest]
    simp [Numeral.exponentChars, Decimal.power]

end LeagueStandings
