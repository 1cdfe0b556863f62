import LeagueStandings.Proofs.Season
import LeagueStandings.Proofs.Text.Blank
import LeagueStandings.Proofs.Text.Lowercase

/-!
# Resolving a token again

A token is resolved on the day of a run, and the season that comes of it may be given to a later
run. Then nothing may change: the token that is resolved first must not ask for the season of
another day.

It does not, for what comes of resolving is never the word `current` (`isCurrent_iff`). Either the
token was not that word, and trimming it a second time changes nothing; or it became the token of a
season, and such a token has a hyphen, as the word has not, and no blanks
(`eq_hyphen_or_isDigit_of_mem_token`).
-/

namespace LeagueStandings.Season

theorem isCurrent_iff {token : String} :
    isCurrent token = true ↔ ∃ before word after, Text.isBlankText before = true ∧
      Text.isBlankText after = true ∧ Text.SameLetters word "current" ∧
      token = before ++ word ++ after := by
  have hsame : ∀ word : String,
      Text.SameLetters word "current" ↔ word.toList.map Char.toLower = "current".toList :=
    fun _ ↦ Iff.rfl
  rw [isCurrent, beq_iff_eq, ← hsame]
  constructor
  · intro hword
    obtain ⟨before, after, hbefore, hafter, htoken⟩ := Text.exists_padding token
    exact ⟨before, Text.trim token, after, hbefore, hafter, hword, htoken⟩
  · rintro ⟨before, word, after, hbefore, hafter, hword, rfl⟩
    -- The word has letters at both ends, whatever their case.
    have htrimmed : Text.IsTrimmed word := by
      rw [hsame] at hword
      constructor
      · intro c hc
        have hhead := congrArg List.head? hword
        rw [List.head?_map, Option.mem_def.mp hc] at hhead
        rw [← Text.isBlank_toLower, Option.some.inj hhead]
        decide
      · intro c hc
        have hlast := congrArg List.getLast? hword
        rw [List.getLast?_map, Option.mem_def.mp hc] at hlast
        rw [← Text.isBlank_toLower, Option.some.inj hlast]
        decide
    rwa [Text.trim_padded hbefore hafter, Text.trim_eq_self htrimmed]

/-! ## The token of a season -/

theorem eq_hyphen_or_isDigit_of_mem_token {year : Int} {c : Char}
    (h : c ∈ (startingIn year).token.toList) : c = '-' ∨ c.isDigit = true := by
  have hdigits : ∀ n, ∀ c ∈ Nat.toDigits 10 n, c.isDigit = true := fun n c hc ↦
    Nat.isDigit_of_mem_toDigits (by decide) (by decide) hc
  simp only [startingIn, Text.integer, Text.integerChars, Text.twoDigits, String.toList_append,
    String.toList_ofList, List.mem_append] at h
  rcases h with ((hsign | hyear) | hhyphen) | hnext
  · split at hsign
    · exact .inl (List.mem_singleton.mp hsign)
    · cases hsign
  · exact .inr (hdigits _ c hyear)
  · exact .inl (List.mem_singleton.mp hhyphen)
  · refine .inr ?_
    split at hnext
    · rcases List.mem_cons.mp hnext with rfl | hnext
      · rfl
      · exact hdigits _ c hnext
    · exact hdigits _ c hnext

theorem hyphen_mem_token (year : Int) : '-' ∈ (startingIn year).token.toList := by
  simp [startingIn]

theorem isBlank_of_isDigit {c : Char} (h : c.isDigit = true) : isBlank c = false := by
  obtain ⟨hlow, hhigh⟩ := Char.isDigit_iff_toNat.mp h
  change 48 ≤ c.toNat at hlow
  change c.toNat ≤ 57 at hhigh
  have hdigit : ∀ n < 10, isBlank (Char.ofNat (n + 48)) = false := by decide
  have hc := hdigit (c.toNat - 48) (by omega)
  rwa [Nat.sub_add_cancel hlow, Char.ofNat_toNat] at hc

theorem isTrimmed_token (year : Int) : Text.IsTrimmed (startingIn year).token := by
  have hblank : ∀ c ∈ (startingIn year).token.toList, isBlank c = false := by
    intro c hc
    rcases eq_hyphen_or_isDigit_of_mem_token hc with rfl | hdigit
    · rfl
    · exact isBlank_of_isDigit hdigit
  exact ⟨fun c hc ↦ hblank c (List.mem_of_mem_head? hc),
    fun c hc ↦ hblank c (List.mem_of_getLast? hc)⟩

theorem isCurrent_token (year : Int) : isCurrent (startingIn year).token = false := by
  rw [Bool.eq_false_iff, isCurrent, Text.trim_eq_self (isTrimmed_token year), ne_eq, beq_iff_eq]
  intro hword
  have hhyphen := List.mem_map_of_mem (f := Char.toLower) (hyphen_mem_token year)
  rw [hword] at hhyphen
  exact absurd hhyphen (by decide)

/-! ## Resolving -/

theorem isTrimmed_resolve (token : String) (day : Date) :
    Text.IsTrimmed (resolve token day).token := by
  rw [resolve]
  split
  · exact isTrimmed_token (startYear day)
  · exact Text.isTrimmed_trim token

theorem isCurrent_resolve (token : String) (day : Date) :
    isCurrent (resolve token day).token = false := by
  rw [resolve]
  split
  · exact isCurrent_token (startYear day)
  · next hword =>
    rw [isCurrent, Text.trim_eq_self (Text.isTrimmed_trim token), ← isCurrent]
    exact Bool.eq_false_iff.mpr hword

/-- **Resolving a season is stable.** Resolving the token of a resolved season gives that season
again, also on another day. The token has no white space at its ends, and it is not the word
`current` in any case of its letters or with any padding. -/
theorem resolve_resolve (token : String) (day later : Date) :
    resolve (resolve token day).token later = resolve token day ∧
      Text.IsTrimmed (resolve token day).token ∧
      ¬ ∃ before word after, Text.isBlankText before = true ∧ Text.isBlankText after = true ∧
        Text.SameLetters word "current" ∧
        (resolve token day).token = before ++ word ++ after := by
  have htrimmed := isTrimmed_resolve token day
  have hword := isCurrent_resolve token day
  refine ⟨?_, htrimmed, fun h ↦ ?_⟩
  · rw [resolve, hword, if_neg Bool.false_ne_true, Text.trim_eq_self htrimmed]
  · rw [isCurrent_iff.mpr h] at hword
    cases hword

/-- The word in mixed case between wide blanks, resolved on the last day of a season and again on
the first day of the next one. -/
theorem resolve_resolve_turn :
    (resolve "\u3000CurrENT\t" (lastDay 2025)).token = "2025-26" ∧
      resolve "2025-26" (firstDay 2026) = resolve "\u3000CurrENT\t" (lastDay 2025) ∧
      containing (firstDay 2026) ≠ resolve "\u3000CurrENT\t" (lastDay 2025) := by
  have htoken : (resolve "\u3000CurrENT\t" (lastDay 2025)).token = "2025-26" := by decide
  have hagain := (resolve_resolve "\u3000CurrENT\t" (lastDay 2025) (firstDay 2026)).1
  rw [htoken] at hagain
  exact ⟨htoken, hagain, by decide⟩

end LeagueStandings.Season
