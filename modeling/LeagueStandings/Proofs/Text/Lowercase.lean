import LeagueStandings.Text.Blank
import LeagueStandings.Text.Lowercase

/-!
# Lower case and the letters of ASCII

Lowering a text to full Unicode lower case includes lowering the letters of ASCII, so it should not
matter whether these have been lowered before. Character by character that is plain. The capital
sigma is the exception, since it becomes one of two letters by what stands around it; but that
depends on which characters around it are letters with case, and on which ones are passed over, and
an ASCII letter is a letter with case in both of its cases.

So each property of characters that is asked for is settled for the twenty-six capitals
(`eq_of_capitals`), and the texts follow by one induction (`lowerAfter_map_toLower`).
-/

namespace LeagueStandings.Text

/-- The texts are the same but for the case of their ASCII letters. -/
def SameLetters (s t : String) : Prop := s.toList.map Char.toLower = t.toList.map Char.toLower

instance (s t : String) : Decidable (SameLetters s t) := instDecidableEqList _ _

theorem SameLetters.refl (s : String) : SameLetters s s := rfl

theorem SameLetters.append {s s' t t' : String} (hs : SameLetters s s') (ht : SameLetters t t') :
    SameLetters (s ++ t) (s' ++ t') := by
  rw [SameLetters, String.toList_append, String.toList_append, List.map_append, List.map_append,
    hs, ht]

/-! ## Characters -/

/-- A function that does not tell the capitals of ASCII from their small letters does not tell
whether any character has been lowered. -/
theorem eq_of_capitals {α : Type} {f : Char → α}
    (h : ∀ k < 26, f (Char.ofNat (k + 65)).toLower = f (Char.ofNat (k + 65))) (c : Char) :
    f c.toLower = f c := by
  by_cases hc : 65 ≤ c.toNat ∧ c.toNat ≤ 90
  · have hcapital := h (c.toNat - 65) (by omega)
    rwa [Nat.sub_add_cancel hc.1, Char.ofNat_toNat] at hcapital
  · have hsame : c.toLower = c := by
      delta Char.toLower
      refine dif_neg fun h ↦ hc ⟨?_, ?_⟩
      · exact (UInt32.le_iff_toNat_le.mp h.1 :)
      · exact (UInt32.le_iff_toNat_le.mp h.2 :)
    rw [hsame]

@[simp] theorem isBlank_toLower (c : Char) : isBlank c.toLower = isBlank c :=
  eq_of_capitals (by decide) c

@[simp] theorem isCased_toLower (c : Char) : isCased c.toLower = isCased c :=
  eq_of_capitals (by decide) c

@[simp] theorem isCaseIgnorable_toLower (c : Char) : isCaseIgnorable c.toLower = isCaseIgnorable c :=
  eq_of_capitals (by decide) c

@[simp] theorem lowerChar_toLower (c : Char) : lowerChar c.toLower = lowerChar c :=
  eq_of_capitals (by decide) c

theorem toLower_eq_sigma_iff (c : Char) : c.toLower = 'Σ' ↔ c = 'Σ' :=
  decide_eq_decide.mp (eq_of_capitals (f := fun c ↦ decide (c = 'Σ')) (by decide) c)

/-! ## Texts -/

theorem meetsCased_map_toLower (cs : List Char) :
    meetsCased (cs.map Char.toLower) = meetsCased cs := by
  have hignorable : isCaseIgnorable ∘ Char.toLower = isCaseIgnorable := funext isCaseIgnorable_toLower
  rw [meetsCased, List.dropWhile_map, hignorable, meetsCased]
  cases cs.dropWhile isCaseIgnorable with
  | nil => rfl
  | cons c _ => exact isCased_toLower c

theorem lowerAfter_map_toLower (before cs : List Char) :
    lowerAfter (before.map Char.toLower) (cs.map Char.toLower) = lowerAfter before cs := by
  induction cs generalizing before with
  | nil => rfl
  | cons c cs ih =>
    have hrest := ih (c :: before)
    rw [List.map_cons] at hrest
    rw [List.map_cons, lowerAfter, lowerAfter, hrest]
    simp only [toLower_eq_sigma_iff, meetsCased_map_toLower, lowerChar_toLower]

theorem trimStart_map_toLower (cs : List Char) :
    trimStart (cs.map Char.toLower) = (trimStart cs).map Char.toLower := by
  have hblank : isBlank ∘ Char.toLower = isBlank := funext isBlank_toLower
  rw [trimStart, List.dropWhile_map, hblank, trimStart]

theorem trimEnd_map_toLower (cs : List Char) :
    trimEnd (cs.map Char.toLower) = (trimEnd cs).map Char.toLower := by
  have hblank : isBlank ∘ Char.toLower = isBlank := funext isBlank_toLower
  rw [trimEnd, ← List.map_reverse, List.dropWhile_map, hblank, ← List.map_reverse, trimEnd]

theorem lower_trim_congr {s t : String} (h : SameLetters s t) :
    lower (trim s) = lower (trim t) := by
  have hlowered : ∀ s : String, lower (trim s) =
      String.ofList (lowerAfter [] (trimEnd (trimStart (s.toList.map Char.toLower)))) := by
    intro s
    rw [trimStart_map_toLower, trimEnd_map_toLower, ← List.map_nil (f := Char.toLower),
      lowerAfter_map_toLower, lower, trim, String.toList_ofList]
  rw [hlowered, hlowered, h]

end LeagueStandings.Text
