import LeagueStandings.Text.Blank
import Mathlib.Data.List.DropRight
import Mathlib.Data.List.TakeWhile

/-!
# Blanks around a text

Trimming does not see white space that is added at either end (`trim_padded`), whatever the text in
between begins and ends with. It takes nothing else away (`exists_padding`), it takes all of it away
(`isTrimmed_trim`), and from a text without any it takes nothing (`trim_eq_self`).
-/

namespace LeagueStandings.Text

section List

variable {before after : List Char}

theorem trimStart_append (h : ∀ c ∈ before, isBlank c = true) (cs : List Char) :
    trimStart (before ++ cs) = trimStart cs :=
  List.dropWhile_append_of_pos h

theorem trimEnd_append (h : ∀ c ∈ after, isBlank c = true) (cs : List Char) :
    trimEnd (cs ++ after) = trimEnd cs := by
  rw [trimEnd, List.reverse_append, List.dropWhile_append_of_pos, trimEnd]
  intro c hc
  exact h c (List.mem_reverse.mp hc)

theorem trimEnd_trimStart_append (h : ∀ c ∈ after, isBlank c = true) (cs : List Char) :
    trimEnd (trimStart (cs ++ after)) = trimEnd (trimStart cs) := by
  rw [trimStart, List.dropWhile_append, ← trimStart]
  split
  · next hblank =>
    -- The text is blank, so its padding is taken for a leading one.
    have hafter : after.dropWhile isBlank = [] := List.dropWhile_eq_nil_iff.mpr h
    rw [hafter, List.isEmpty_iff.mp hblank]
  · exact trimEnd_append h (trimStart cs)

end List

theorem isBlankText_iff {s : String} : isBlankText s = true ↔ ∀ c ∈ s.toList, isBlank c = true :=
  List.all_eq_true

theorem trim_padded {before after : String} (hbefore : isBlankText before = true)
    (hafter : isBlankText after = true) (s : String) : trim (before ++ s ++ after) = trim s := by
  rw [isBlankText_iff] at hbefore hafter
  rw [trim, String.toList_append, trimEnd_trimStart_append hafter, String.toList_append,
    trimStart_append hbefore, ← trim]

/-! ## Trimmed texts -/

/-- The text neither begins nor ends with white space. -/
structure IsTrimmed (s : String) : Prop where
  head : ∀ c ∈ s.toList.head?, isBlank c = false
  last : ∀ c ∈ s.toList.getLast?, isBlank c = false

section List

variable {cs : List Char}

theorem isBlank_of_mem_head?_trimStart {c : Char} (h : c ∈ (trimStart cs).head?) :
    isBlank c = false := by
  have hnot := List.head?_dropWhile_not isBlank cs
  rw [← trimStart, Option.mem_def.mp h] at hnot
  exact hnot

theorem trimStart_eq_self (h : ∀ c ∈ cs.head?, isBlank c = false) : trimStart cs = cs := by
  cases cs with
  | nil => rfl
  | cons c cs => exact List.dropWhile_cons_of_neg (Bool.eq_false_iff.mp (h c rfl))

theorem trimEnd_eq_reverse (cs : List Char) : trimEnd cs = (trimStart cs.reverse).reverse := rfl

end List

theorem isTrimmed_trim (s : String) : IsTrimmed (trim s) := by
  constructor
  · intro c hc
    obtain ⟨rest, hrest⟩ : trimEnd (trimStart s.toList) <+: trimStart s.toList :=
      List.rdropWhile_prefix isBlank _
    rw [trim, String.toList_ofList] at hc
    have hstart : c ∈ (trimStart s.toList).head? := by
      rw [← hrest]
      exact List.mem_head?_append_of_mem_head? hc
    exact isBlank_of_mem_head?_trimStart hstart
  · intro c hc
    rw [trim, String.toList_ofList, trimEnd_eq_reverse, List.getLast?_reverse] at hc
    exact isBlank_of_mem_head?_trimStart hc

theorem trim_eq_self {s : String} (h : IsTrimmed s) : trim s = s := by
  have hlast : ∀ c ∈ s.toList.reverse.head?, isBlank c = false := by
    rw [List.head?_reverse]
    exact h.last
  rw [trim, trimStart_eq_self h.head, trimEnd_eq_reverse, trimStart_eq_self hlast,
    List.reverse_reverse, String.ofList_toList]

theorem exists_padding (s : String) : ∃ before after, isBlankText before = true ∧
    isBlankText after = true ∧ s = before ++ trim s ++ after := by
  refine ⟨String.ofList (s.toList.takeWhile isBlank),
    String.ofList ((trimStart s.toList).rtakeWhile isBlank), ?_, ?_, ?_⟩
  · rw [isBlankText_iff, String.toList_ofList]
    exact fun c hc ↦ List.mem_takeWhile_imp hc
  · rw [isBlankText_iff, String.toList_ofList]
    exact fun c hc ↦ List.mem_rtakeWhile_imp hc
  · have hend : trimEnd (trimStart s.toList) ++ (trimStart s.toList).rtakeWhile isBlank =
        trimStart s.toList := List.rdropWhile_append_rtakeWhile
    rw [trim, ← String.ofList_append, ← String.ofList_append, List.append_assoc, hend, trimStart,
      List.takeWhile_append_dropWhile, String.ofList_toList]

end LeagueStandings.Text
