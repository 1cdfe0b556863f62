import LeagueStandings.Proofs.Json.BestEffort
import LeagueStandings.Proofs.Json.Numerals

/-!
# Numbers that are read again

A real number is written with the fewest digits from which it is recovered by rounding once. Since
JSON is read with best effort, which rounds more than once, the number that is read from these
digits may be another one (`JsonNumber.reread`). But there always is one
(`exists_spelling_chars`): only with the two largest magnitudes the roundings might leave the range,
and for these the digits are known. An integer is always read as itself.
-/

namespace LeagueStandings

/-! ## The two largest magnitudes -/

namespace Magnitude

/-- Magnitudes of the highest exponent. -/
private def top (significand : Nat) (h : significand < 0x20000000000000 := by decide)
    (h' : 0x10000000000000 ≤ significand := by decide) : Magnitude :=
  ⟨significand, 2045, h, Nat.le_refl _, .inr h'⟩

private theorem eq_top {x : Magnitude} (h : 0x1FFFFFFFFFFFFD * coarsestStep < x.units) :
    x = top 0x1FFFFFFFFFFFFE ∨ x = top 0x1FFFFFFFFFFFFF := by
  have hstep : 0 < coarsestStep := by decide
  obtain ⟨hexponent, hunits⟩ := units_eq_of_le (x := x) (by omega)
  have hlow : 0x1FFFFFFFFFFFFD < x.significand :=
    Nat.lt_of_mul_lt_mul_right (Nat.lt_of_lt_of_le h (Nat.le_of_eq hunits))
  have hsignificand := x.significand_lt
  obtain ⟨significand, exponent, _, _, _⟩ := x
  dsimp only at hsignificand hexponent hlow
  subst hexponent
  obtain rfl | rfl : significand = 0x1FFFFFFFFFFFFE ∨ significand = 0x1FFFFFFFFFFFFF := by omega
  · exact .inl rfl
  · exact .inr rfl

end Magnitude

namespace JsonNumber

/-! ## Reading a number again -/

/-- The number that is read from the text of a number. -/
def reread (value : JsonNumber) : JsonNumber :=
  ((Numeral.ofJson? value.chars).bind ofNumeral?).getD value

/-- The digits of the two largest magnitudes are read. -/
private theorem isSome_top (negative : Bool) {magnitude : Magnitude}
    (h : magnitude = .top 0x1FFFFFFFFFFFFE ∨ magnitude = .top 0x1FFFFFFFFFFFFF) :
    ((Numeral.ofJson? (real negative magnitude).chars).bind ofNumeral?).isSome = true := by
  have htop : ∀ negative, ∀ magnitude ∈ [Magnitude.top 0x1FFFFFFFFFFFFE, .top 0x1FFFFFFFFFFFFF],
      ((Numeral.ofJson? (real negative magnitude).chars).bind ofNumeral?).isSome = true := by
    decide +kernel
  exact htop negative magnitude (by simpa using h)

/-- The numeral is one of JSON, and what is read from it is what is read of the number again. -/
structure ReadsFrom (value : JsonNumber) (n : Numeral) : Prop where
  wellFormed : n.WellFormed
  isJson : n.isJson = true
  value : ofNumeral? n = some value.reread

variable {value read : JsonNumber} {n : Numeral}

theorem ofJson?_spelling (hn : n.WellFormed) (hjson : n.isJson = true) :
    Numeral.ofJson? n.spelling = some n := by
  rw [Numeral.ofJson?, Numeral.ofChars?_spelling hn, Option.filter_some, if_pos hjson]

private theorem readsFrom_of_ofNumeral? (hn : n.WellFormed) (hjson : n.isJson = true)
    (hspelling : n.spelling = value.chars) (h : ofNumeral? n = some read) :
    value.reread = read ∧ value.ReadsFrom n := by
  have hreread : value.reread = read := by
    rw [reread, ← hspelling, ofJson?_spelling hn hjson, Option.bind_some, h, Option.getD_some]
  exact ⟨hreread, hn, hjson, hreread ▸ h⟩

private theorem exists_integerNumeral (value : Int) (fitsWord : FitsWord value) :
    (integer value fitsWord).reread = integer value fitsWord ∧
      (integer value fitsWord).ReadsFrom (integerNumeral value) := by
  refine readsFrom_of_ofNumeral? (wellFormed_integerNumeral value) (isJson_integerNumeral value)
    (integerChars_eq value).symm ?_
  have hinteger := integer_integerNumeral value
  have hfits : FitsWord (integerNumeral value).integer := hinteger.symm ▸ fitsWord
  -- The numeral is plain, and a zero never has a minus in front.
  have hplain : ((integerNumeral value).isPlain &&
      !((integerNumeral value).isNegative && (integerNumeral value).integer == 0)) = true := by
    rw [isNegative_integerNumeral, hinteger]
    have hzero : (decide (value < 0) && value == 0) = false := by
      rw [Bool.and_eq_false_iff, decide_eq_false_iff_not, beq_eq_false_iff_ne]
      omega
    rw [hzero]
    rfl
  rw [ofNumeral?, dif_pos hfits, if_pos hplain]
  congr 2

private theorem ofNumeral?_of_not_isPlain (h : n.isPlain = false) :
    ofNumeral? n = n.bestEffort?.map (real n.isNegative) := by
  rw [ofNumeral?, h, Bool.false_and]
  split
  · exact if_neg Bool.false_ne_true
  · rfl

private theorem exists_realNumeral (negative : Bool) (magnitude : Magnitude) :
    ∃ n, (∃ read, (real negative magnitude).reread = real negative read) ∧
      (real negative magnitude).ReadsFrom n ∧ n.spelling = (real negative magnitude).chars := by
  obtain ⟨n, hspells, hspelling⟩ := exists_spelling_realChars (magnitude.shortest negative)
  have hchars : n.spelling = (real negative magnitude).chars := hspelling
  have hbinary64 : n.binary64 = .finite negative magnitude := by
    rw [hspells.binary64, Binary64.ofDecimal_shortest]
  have hsign : n.isNegative = negative := Binary64.negative_of_ofDecimal hbinary64
  have hreal := ofNumeral?_of_not_isPlain hspells.isPlain
  obtain ⟨read, hread⟩ : ∃ read, n.bestEffort? = some read := by
    rcases Nat.lt_or_ge (0x1FFFFFFFFFFFFD * Magnitude.coarsestStep) magnitude.units with hlt | hle
    · have hsome : (ofNumeral? n).isSome = true := by
        have htop := isSome_top negative (Magnitude.eq_top hlt)
        rwa [← hchars, ofJson?_spelling hspells.wellFormed hspells.isJson, Option.bind_some] at htop
      rw [hreal, Option.isSome_map] at hsome
      exact Option.isSome_iff_exists.mp hsome
    · exact Numeral.exists_bestEffort? hbinary64 hle
  rw [hread, Option.map_some, hsign] at hreal
  obtain ⟨hreread, hreads⟩ :=
    readsFrom_of_ofNumeral? hspells.wellFormed hspells.isJson hchars hreal
  exact ⟨n, ⟨read, hreread⟩, hreads, hchars⟩

/-- **Numbers as written.** The text of a number spells a numeral, and a number is read from it. -/
theorem exists_spelling_chars (value : JsonNumber) :
    ∃ n : Numeral, value.ReadsFrom n ∧ n.spelling = value.chars := by
  cases value with
  | integer value fitsWord =>
    exact ⟨_, (exists_integerNumeral value fitsWord).2, (integerChars_eq value).symm⟩
  | real negative magnitude =>
    obtain ⟨n, -, hreads, hspelling⟩ := exists_realNumeral negative magnitude
    exact ⟨n, hreads, hspelling⟩

@[simp] theorem reread_integer (value : Int) (fitsWord : FitsWord value) :
    (integer value fitsWord).reread = integer value fitsWord :=
  (exists_integerNumeral value fitsWord).1

theorem exists_reread_real (negative : Bool) (magnitude : Magnitude) :
    ∃ read, (real negative magnitude).reread = real negative read := by
  obtain ⟨n, hreread, -⟩ := exists_realNumeral negative magnitude
  exact hreread

end JsonNumber

/-! ## Binary64 numbers -/

namespace Binary64

/-- What a finite number is read as after it was written; the others are not written as numbers. -/
def reread : Binary64 → Binary64
  | finite negative magnitude => (JsonNumber.real negative magnitude).reread.binary64
  | x => x

@[simp] theorem isFinite_reread (x : Binary64) : x.reread.isFinite = x.isFinite := by
  cases x with
  | finite negative magnitude =>
    obtain ⟨read, hread⟩ := JsonNumber.exists_reread_real negative magnitude
    rw [reread, hread]
    rfl
  | nan => rfl
  | infinite negative => rfl

end Binary64

end LeagueStandings
