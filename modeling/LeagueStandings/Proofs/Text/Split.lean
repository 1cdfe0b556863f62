import LeagueStandings.Text.Split
import Mathlib.Data.List.DropRight

/-!
# Separators in composed texts

What splitting and cutting do to a text that is put together. A separator between two texts keeps
their pieces apart (`splitAt_append_cons`), and a text is cut at the first separator, whatever stands
behind it (`cutAt_append_cons`).
-/

namespace LeagueStandings.Text

/-! ## Splitting -/

section Split

variable {p : Char → Bool}

theorem splitAt_cons_of_not {c : Char} (h : p c = false) (cs : List Char) :
    ∃ piece pieces, splitAt p cs = piece :: pieces ∧
      splitAt p (c :: cs) = (c :: piece) :: pieces := by
  obtain ⟨piece, pieces, hcs⟩ := List.exists_cons_of_ne_nil (splitAt_ne_nil p cs)
  refine ⟨piece, pieces, hcs, ?_⟩
  rw [splitAt, if_neg (Bool.eq_false_iff.mp h), hcs]

theorem splitAt_append_cons {c : Char} (h : p c = true) (a b : List Char) :
    splitAt p (a ++ c :: b) = splitAt p a ++ splitAt p b := by
  induction a with
  | nil => simp [splitAt, h]
  | cons d a ih =>
    cases hd : p d with
    | true => simp [splitAt, hd, ih]
    | false =>
      obtain ⟨piece, pieces, ha, hda⟩ := splitAt_cons_of_not hd a
      obtain ⟨piece', pieces', hab, hdab⟩ := splitAt_cons_of_not hd (a ++ c :: b)
      rw [ih, ha] at hab
      cases hab
      rw [List.cons_append, hdab, hda]
      rfl

theorem splitAt_eq_singleton {cs : List Char} (h : ∀ c ∈ cs, p c = false) :
    splitAt p cs = [cs] := by
  induction cs with
  | nil => rfl
  | cons c cs ih =>
    rw [splitAt, if_neg (Bool.eq_false_iff.mp (h c List.mem_cons_self)),
      ih fun d hd ↦ h d (List.mem_cons_of_mem c hd)]

/-- What has no separator goes on with the last piece. -/
theorem exists_splitAt_append {b : List Char} (hb : ∀ c ∈ b, p c = false) (a : List Char) :
    ∃ pieces last, splitAt p a = pieces ++ [last] ∧
      splitAt p (a ++ b) = pieces ++ [last ++ b] := by
  induction a with
  | nil => exact ⟨[], [], rfl, splitAt_eq_singleton hb⟩
  | cons c a ih =>
    obtain ⟨pieces, last, ha, hab⟩ := ih
    cases hc : p c with
    | true =>
      refine ⟨[] :: pieces, last, ?_, ?_⟩
      · rw [splitAt, if_pos hc, ha, List.cons_append]
      · rw [List.cons_append, splitAt, if_pos hc, hab, List.cons_append]
    | false =>
      obtain ⟨first, others, ha', hca⟩ := splitAt_cons_of_not hc a
      obtain ⟨first', others', hab', hcab⟩ := splitAt_cons_of_not hc (a ++ b)
      rw [ha] at ha'
      rw [hab] at hab'
      rw [List.cons_append, hca, hcab]
      cases pieces with
      | nil =>
        cases ha'
        cases hab'
        exact ⟨[], c :: last, rfl, rfl⟩
      | cons piece pieces =>
        cases ha'
        cases hab'
        exact ⟨(c :: first) :: pieces, last, rfl, rfl⟩

theorem mem_of_mem_splitAt {c : Char} {piece cs : List Char} (hpiece : piece ∈ splitAt p cs)
    (hc : c ∈ piece) : c ∈ cs := by
  induction cs generalizing piece with
  | nil =>
    rw [splitAt, List.mem_singleton] at hpiece
    exact hpiece ▸ hc
  | cons d cs ih =>
    cases hd : p d with
    | true =>
      rw [splitAt, if_pos hd, List.mem_cons] at hpiece
      rcases hpiece with rfl | hpiece
      · cases hc
      · exact List.mem_cons_of_mem d (ih hpiece hc)
    | false =>
      obtain ⟨first, pieces, hcs, hdcs⟩ := splitAt_cons_of_not hd cs
      rw [hdcs, List.mem_cons] at hpiece
      rcases hpiece with rfl | hpiece
      · rcases List.mem_cons.mp hc with rfl | hc
        · exact List.mem_cons_self
        · exact List.mem_cons_of_mem d (ih (hcs ▸ List.mem_cons_self) hc)
      · exact List.mem_cons_of_mem d (ih (hcs ▸ List.mem_cons_of_mem first hpiece) hc)

theorem of_mem_splitAt {piece cs : List Char} (hpiece : piece ∈ splitAt p cs) :
    ∀ c ∈ piece, p c = false := by
  induction cs generalizing piece with
  | nil =>
    rw [splitAt, List.mem_singleton] at hpiece
    exact hpiece ▸ List.forall_mem_nil _
  | cons d cs ih =>
    cases hd : p d with
    | true =>
      rw [splitAt, if_pos hd, List.mem_cons] at hpiece
      rcases hpiece with rfl | hpiece
      · exact List.forall_mem_nil _
      · exact ih hpiece
    | false =>
      obtain ⟨first, pieces, hcs, hdcs⟩ := splitAt_cons_of_not hd cs
      rw [hdcs, List.mem_cons] at hpiece
      rcases hpiece with rfl | hpiece
      · exact List.forall_mem_cons.mpr ⟨hd, ih (hcs ▸ List.mem_cons_self)⟩
      · exact ih (hcs ▸ List.mem_cons_of_mem first hpiece)

theorem exists_mem_splitAt {c : Char} {cs : List Char} (hmem : c ∈ cs) (hc : p c = false) :
    ∃ piece ∈ splitAt p cs, c ∈ piece := by
  induction cs with
  | nil => cases hmem
  | cons d cs ih =>
    cases hd : p d with
    | true =>
      have hne : c ≠ d := by
        rintro rfl
        cases hc.symm.trans hd
      obtain ⟨piece, hpiece, hmem⟩ := ih ((List.mem_cons.mp hmem).resolve_left hne)
      exact ⟨piece, by rw [splitAt, if_pos hd]; exact List.mem_cons_of_mem _ hpiece, hmem⟩
    | false =>
      obtain ⟨first, pieces, hcs, hdcs⟩ := splitAt_cons_of_not hd cs
      rw [hdcs]
      rcases List.mem_cons.mp hmem with rfl | hmem
      · exact ⟨_, List.mem_cons_self, List.mem_cons_self⟩
      · obtain ⟨piece, hpiece, hmem⟩ := ih hmem
        rw [hcs] at hpiece
        rcases List.mem_cons.mp hpiece with rfl | hpiece
        · exact ⟨_, List.mem_cons_self, List.mem_cons_of_mem d hmem⟩
        · exact ⟨piece, List.mem_cons_of_mem _ hpiece, hmem⟩

/-- So many separators at the end are so many empty pieces there. -/
theorem splitAt_append_replicate {c : Char} (h : p c = true) (cs : List Char) (k : Nat) :
    splitAt p (cs ++ List.replicate k c) = splitAt p cs ++ List.replicate k [] := by
  induction k generalizing cs with
  | zero => simp
  | succ k ih =>
    rw [List.replicate_succ, splitAt_append_cons h, ← List.nil_append (List.replicate k c), ih]
    rfl

end Split

/-! ## Dropping and taking

What follows does not matter to either if it begins with a character at which they end. -/

section Drop

variable {α : Type} {p : α → Bool} {rest : List α} (hrest : ∀ c ∈ rest.head?, p c = false)

include hrest in
theorem dropWhile_append (cs : List α) :
    (cs ++ rest).dropWhile p = cs.dropWhile p ++ rest := by
  have hstop : rest.dropWhile p = rest := by
    cases rest with
    | nil => rfl
    | cons c rest => exact List.dropWhile_cons_of_neg (by simp [hrest c rfl])
  rw [List.dropWhile_append]
  split
  · next h => rw [List.isEmpty_iff.mp h, hstop, List.nil_append]
  · rfl

theorem dropWhile_append_cons {c : α} (hc : p c = false) (a b : List α) :
    (a ++ c :: b).dropWhile p = a.dropWhile p ++ c :: b :=
  dropWhile_append (by rintro d ⟨⟩; exact hc) a

/-- Nor does it if they end before it. -/
theorem dropWhile_append_of_mem {c : α} {cs : List α} (hmem : c ∈ cs) (hc : p c = false)
    (rest : List α) : (cs ++ rest).dropWhile p = cs.dropWhile p ++ rest := by
  obtain ⟨before, after, rfl⟩ := List.append_of_mem hmem
  rw [List.append_assoc, List.cons_append, dropWhile_append_cons hc, dropWhile_append_cons hc,
    List.append_assoc, List.cons_append]

theorem mem_dropWhile_of_mem {c : α} {cs : List α} (hmem : c ∈ cs) (hc : p c = false) :
    c ∈ cs.dropWhile p := by
  rw [← List.takeWhile_append_dropWhile (p := p) (l := cs), List.mem_append] at hmem
  refine hmem.resolve_left fun hfront ↦ ?_
  rw [List.mem_takeWhile_imp hfront] at hc
  cases hc

/-- From the other end it is what stands in front that does not matter. -/
theorem rdropWhile_append_cons {c : α} (hc : p c = false) (a b : List α) :
    (a ++ c :: b).rdropWhile p = a ++ c :: b.rdropWhile p := by
  have hreverse : (a ++ c :: b).reverse = b.reverse ++ c :: a.reverse := by simp
  rw [List.rdropWhile, hreverse, dropWhile_append_cons hc, List.reverse_append, List.reverse_cons,
    List.reverse_reverse, List.append_assoc]
  rfl

include hrest in
theorem takeWhile_append (cs : List α) : (cs ++ rest).takeWhile p = cs.takeWhile p := by
  have hstop : rest.takeWhile p = [] := by
    cases rest with
    | nil => rfl
    | cons c rest => exact List.takeWhile_cons_of_neg (by simp [hrest c rfl])
  rw [List.takeWhile_append]
  split
  · next h => rw [hstop, List.append_nil, (List.takeWhile_sublist p).eq_of_length h]
  · rfl

theorem takeWhile_append_of_mem {c : α} {cs : List α} (hmem : c ∈ cs) (hc : p c = false)
    (rest : List α) : (cs ++ rest).takeWhile p = cs.takeWhile p := by
  have hhead : ∀ after : List α, ∀ d ∈ (c :: after).head?, p d = false := by
    rintro after d ⟨⟩
    exact hc
  obtain ⟨before, after, rfl⟩ := List.append_of_mem hmem
  rw [List.append_assoc, List.cons_append, takeWhile_append (hhead _), takeWhile_append (hhead _)]

/-- What goes on with characters that are taken is taken with all of the text, or not at all. -/
theorem takeWhile_dropWhile_append {more : List α} (h : ∀ c ∈ more, p c = true) (cs : List α) :
    ((∀ c ∈ cs, p c = true) ∧ (cs ++ more).takeWhile p = cs ++ more ∧
      (cs ++ more).dropWhile p = []) ∨
    cs.dropWhile p ≠ [] ∧ (cs ++ more).takeWhile p = cs.takeWhile p ∧
      (cs ++ more).dropWhile p = cs.dropWhile p ++ more := by
  by_cases hcs : ∀ c ∈ cs, p c = true
  · have hall : ∀ c ∈ cs ++ more, p c = true := by
      intro c hc
      exact (List.mem_append.mp hc).elim (hcs c) (h c)
    exact .inl ⟨hcs, List.takeWhile_eq_self_iff.mpr hall, List.dropWhile_eq_nil_iff.mpr hall⟩
  · obtain ⟨c, hc, hpc⟩ := not_forall₂.mp hcs
    rw [Bool.not_eq_true] at hpc
    exact .inr ⟨List.ne_nil_of_mem (mem_dropWhile_of_mem hc hpc),
      takeWhile_append_of_mem hc hpc more, dropWhile_append_of_mem hc hpc more⟩

/-- What can be taken from the end of a text, if not all of it, stands behind what can be dropped
from its front. -/
theorem rtakeWhile_dropWhile {c : α} {cs : List α} (hmem : c ∈ cs) (hc : p c = false) :
    (cs.dropWhile p).rtakeWhile p = cs.rtakeWhile p := by
  have hkept : c ∈ (cs.dropWhile p).reverse :=
    List.mem_reverse.mpr (mem_dropWhile_of_mem hmem hc)
  rw [List.rtakeWhile, List.rtakeWhile]
  conv_rhs => rw [← List.takeWhile_append_dropWhile (p := p) (l := cs), List.reverse_append,
    takeWhile_append_of_mem hkept hc]

end Drop

/-! ## Cutting -/

section Cut

variable {c : Char} {a b : List Char}

theorem cutAt_append_of_not_mem (h : c ∉ a) (b : List Char) :
    cutAt c (a ++ b) = (a ++ (cutAt c b).1, (cutAt c b).2) := by
  have hall : ∀ d ∈ a, (d != c) = true := by
    intro d hd
    exact bne_iff_ne.mpr fun hdc ↦ h (hdc ▸ hd)
  rw [cutAt, List.takeWhile_append_of_pos hall, List.dropWhile_append_of_pos hall]
  rfl

theorem cutAt_of_not_mem (h : c ∉ a) : cutAt c a = (a, none) := by
  simpa [cutAt] using cutAt_append_of_not_mem h []

theorem cutAt_append_cons (h : c ∉ a) (b : List Char) : cutAt c (a ++ c :: b) = (a, some b) := by
  rw [cutAt_append_of_not_mem h]
  simp [cutAt]

/-- The first part is free of the separator, and cut from the text. -/
theorem cutAt_cases (c : Char) (cs : List Char) :
    (c ∉ cs ∧ cutAt c cs = (cs, none)) ∨
      ∃ before after, c ∉ before ∧ cs = before ++ c :: after ∧
        cutAt c cs = (before, some after) := by
  by_cases h : c ∈ cs
  · obtain ⟨before, after, rfl, hbefore⟩ := List.eq_append_cons_of_mem h
    exact .inr ⟨before, after, hbefore, rfl, cutAt_append_cons hbefore after⟩
  · exact .inl ⟨h, cutAt_of_not_mem h⟩

theorem not_mem_cutAt_fst (c : Char) (cs : List Char) : c ∉ (cutAt c cs).1 := by
  rcases cutAt_cases c cs with ⟨hnot, h⟩ | ⟨before, after, hnot, -, h⟩ <;> rwa [h]

theorem cutAt_fst_subset (c : Char) (cs : List Char) : (cutAt c cs).1 ⊆ cs :=
  (List.takeWhile_sublist _).subset

theorem cutAt_snd_subset (c : Char) (cs : List Char) : (cutAt c cs).2.getD [] ⊆ cs := by
  rcases cutAt_cases c cs with ⟨-, h⟩ | ⟨before, after, -, rfl, h⟩
  · simp [h]
  · rw [h, Option.getD_some]
    exact List.subset_append_of_subset_right _ (List.subset_cons_self c after)

end Cut

end LeagueStandings.Text
