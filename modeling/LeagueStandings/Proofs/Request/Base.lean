import LeagueStandings.Proofs.Url.Marks
import LeagueStandings.StandingsRequest

/-!
# Base URLs and their endpoints

The endpoint of a base URL is found in its text: slashes at the end are taken off, and the path of
the standings is put there. So what the endpoint means depends on where the end of the base URL is.
Both texts begin with the same `stem`, and if it has the mark of a query or of a fragment, then what
is put behind it does not reach the path any more (`placeText_endpoint`).
-/

namespace LeagueStandings

namespace StandingsRequest

variable {base : String}

/-- The base URL without blanks in front and slashes behind. -/
def stem (base : String) : List Char :=
  (base.toList.rdropWhile (· == '/')).dropWhile Url.isMargin

/-- What is put behind the base URL. -/
def endpointPath : List Char := '/' :: standingsEndpoint.toList

theorem toList_endpoint (base : String) :
    (endpoint base).toList = base.toList.rdropWhile (· == '/') ++ endpointPath := by
  simp [endpoint, endpointPath, List.rdropWhile]

theorem trim_endpoint (base : String) :
    Url.trim (endpoint base).toList = stem base ++ endpointPath := by
  have hlast : endpointPath.rdropWhile Url.isMargin = endpointPath := by decide
  rw [toList_endpoint, endpointPath, Url.trim_eq, Text.dropWhile_append_cons (by decide),
    Text.rdropWhile_append_cons (by decide), ← stem]
  exact congrArg (stem base ++ ·) hlast

theorem exists_dropWhile_base (base : String) :
    ∃ k, base.toList.dropWhile Url.isMargin = stem base ++ List.replicate k '/' := by
  have hslashes : ∀ c ∈ base.toList.rtakeWhile (· == '/'), c = '/' := by
    intro c hc
    exact beq_iff_eq.mp (List.mem_rtakeWhile_imp (p := (· == '/')) hc)
  obtain ⟨k, hk⟩ : ∃ k, base.toList.rtakeWhile (· == '/') = List.replicate k '/' :=
    ⟨_, List.eq_replicate_of_mem hslashes⟩
  have htext : base.toList.rdropWhile (· == '/') ++ List.replicate k '/' = base.toList := by
    rw [← hk, List.rdropWhile_append_rtakeWhile]
  have hhead : ∀ c ∈ (List.replicate k '/').head?, Url.isMargin c = false := by
    intro c hc
    rw [List.eq_of_mem_replicate (List.mem_of_mem_head? hc)]
    rfl
  exact ⟨k, by rw [← htext, Text.dropWhile_append hhead, stem]⟩

/-- Blanks at the end of the base URL count only if they stand in front of these slashes. -/
theorem exists_trim_base (base : String) :
    ∃ k, Url.trim base.toList = (stem base ++ List.replicate k '/').rdropWhile Url.isMargin := by
  obtain ⟨k, hk⟩ := exists_dropWhile_base base
  exact ⟨k, by rw [Url.trim_eq, hk]⟩

/-- Either there are slashes at the end of the base URL, or there may be blanks. -/
theorem trim_base_cases {c : Char} (hmem : c ∈ stem base) (hc : Url.isMargin c = false) :
    (base.toList.rtakeWhile Url.isMargin = [] ∧
      ∃ k, Url.trim base.toList = stem base ++ List.replicate k '/') ∨
    stem base = Url.trim base.toList ++ base.toList.rtakeWhile Url.isMargin := by
  obtain ⟨k, hk⟩ := exists_dropWhile_base base
  have hbase : c ∈ base.toList := by
    refine (List.dropWhile_sublist Url.isMargin).subset ?_
    rw [hk]
    exact List.mem_append_left _ hmem
  rw [Url.trim_eq, ← Text.rtakeWhile_dropWhile hbase hc, hk]
  cases k with
  | zero =>
    rw [List.replicate_zero, List.append_nil]
    exact .inr (List.rdropWhile_append_rtakeWhile ..).symm
  | succ k =>
    rw [List.replicate_succ', ← List.append_assoc]
    exact .inl ⟨List.rtakeWhile_concat_neg _ _ _ (by decide), k + 1, by
      rw [List.rdropWhile_concat_neg _ _ _ (by decide), List.replicate_succ', List.append_assoc]⟩

/-- Marks are neither blanks nor slashes, so the stem has all of them. -/
theorem mem_stem_iff {c : Char} (hmargin : Url.isMargin c = false) (hslash : c ≠ '/') :
    c ∈ stem base ↔ c ∈ base.toList := by
  constructor
  · intro h
    exact (List.rdropWhile_prefix _ _).subset ((List.dropWhile_sublist _).subset h)
  · intro h
    have hkept : c ∈ base.toList.rdropWhile (· == '/') :=
      List.mem_reverse.mpr (Text.mem_dropWhile_of_mem (List.mem_reverse.mpr h)
        (beq_eq_false_iff_ne.mpr hslash))
    exact Text.mem_dropWhile_of_mem hkept hmargin

end StandingsRequest

/-! ## Marks -/

theorem exists_first_mark {cs : List Char} (h : ¬ Unmarked cs) :
    ∃ front mark rest, cs = front ++ mark :: rest ∧ Unmarked front ∧ (mark = '?' ∨ mark = '#') := by
  induction cs with
  | nil => exact absurd Unmarked.nil h
  | cons c cs ih =>
    by_cases hc : c = '?' ∨ c = '#'
    · exact ⟨[], c, cs, rfl, .nil, hc⟩
    · rw [not_or] at hc
      obtain ⟨front, mark, rest, rfl, hfront, hmark⟩ :=
        ih fun hcs ↦ h (Unmarked.cons_iff.mpr ⟨hc, hcs⟩)
      exact ⟨c :: front, mark, rest, rfl, Unmarked.cons_iff.mpr ⟨hc, hfront⟩, hmark⟩

namespace Url

theorem placeText_of_unmarked {cs : List Char} (h : Unmarked cs) : placeText cs = cs := by
  rw [placeText, Text.cutAt_of_not_mem fun hmem ↦ (h _ hmem).2 rfl,
    Text.cutAt_of_not_mem fun hmem ↦ (h _ hmem).1 rfl]

theorem placeText_append_cons {front rest : List Char} {mark : Char} (hfront : Unmarked front)
    (hmark : mark = '?' ∨ mark = '#') : placeText (front ++ mark :: rest) = front := by
  have hquestion : '?' ∉ front := fun hmem ↦ (hfront _ hmem).1 rfl
  have hhash : '#' ∉ front := fun hmem ↦ (hfront _ hmem).2 rfl
  unfold placeText
  rcases hmark with rfl | rfl
  · rw [Text.cutAt_append_of_not_mem hhash]
    have hcut : (Text.cutAt '#' ('?' :: rest)).1 = '?' :: (Text.cutAt '#' rest).1 := rfl
    rw [hcut, Text.cutAt_append_cons hquestion]
  · rw [Text.cutAt_append_cons hhash, Text.cutAt_of_not_mem hquestion]

end Url

namespace StandingsRequest

variable {base : String}

/-- **A mark keeps the path out.** The place of the endpoint is the place of the base URL. -/
theorem placeText_endpoint (h : ¬ Unmarked base.toList) :
    Url.placeText (Url.trim (endpoint base).toList) = Url.placeText (Url.trim base.toList) := by
  have hstem : ¬ Unmarked (stem base) := by
    intro hstem
    refine h fun c hc ↦ ⟨?_, ?_⟩
    · rintro rfl
      exact (hstem _ ((mem_stem_iff (by decide) (by decide)).mpr hc)).1 rfl
    · rintro rfl
      exact (hstem _ ((mem_stem_iff (by decide) (by decide)).mpr hc)).2 rfl
  obtain ⟨front, mark, rest, hsplit, hfront, hmark⟩ := exists_first_mark hstem
  obtain ⟨k, hbase⟩ := exists_trim_base base
  have hmargin : Url.isMargin mark = false := by
    rcases hmark with rfl | rfl <;> rfl
  rw [trim_endpoint, hbase, hsplit, List.append_assoc, List.append_assoc, List.cons_append,
    List.cons_append, Text.rdropWhile_append_cons hmargin, Url.placeText_append_cons hfront hmark,
    Url.placeText_append_cons hfront hmark]

/-- **A fragment takes up everything behind it**, so that the query stays as it is. -/
theorem queryText_endpoint (h : '#' ∈ base.toList) :
    Url.queryText (Url.trim (endpoint base).toList) = Url.queryText (Url.trim base.toList) := by
  have hstem : '#' ∈ stem base := (mem_stem_iff (by decide) (by decide)).mpr h
  obtain ⟨front, rest, hsplit, hfront⟩ := List.eq_append_cons_of_mem hstem
  obtain ⟨k, hbase⟩ := exists_trim_base base
  rw [trim_endpoint, hbase, hsplit, List.append_assoc, List.append_assoc, List.cons_append,
    List.cons_append, Text.rdropWhile_append_cons (by decide), Url.queryText, Url.queryText,
    Text.cutAt_append_cons hfront, Text.cutAt_append_cons hfront]

theorem exists_queryText_endpoint (hquestion : '?' ∈ base.toList) (hhash : '#' ∉ base.toList) :
    ∃ query k, Url.queryText (Url.trim (endpoint base).toList) = some (query ++ endpointPath) ∧
      Url.queryText (Url.trim base.toList) =
        some ((query ++ List.replicate k '/').rdropWhile Url.isMargin) := by
  have hstem : '?' ∈ stem base := (mem_stem_iff (by decide) (by decide)).mpr hquestion
  obtain ⟨front, query, hsplit, hfront⟩ := List.eq_append_cons_of_mem hstem
  obtain ⟨k, hbase⟩ := exists_trim_base base
  have hendpoint : '#' ∉ Url.trim (endpoint base).toList := by
    rw [trim_endpoint, List.mem_append, not_or, mem_stem_iff (by decide) (by decide)]
    exact ⟨hhash, by decide⟩
  have htrim : '#' ∉ Url.trim base.toList := fun hmem ↦ hhash (Url.trim_subset _ hmem)
  refine ⟨query, k, ?_, ?_⟩
  · rw [Url.queryText, Text.cutAt_of_not_mem hendpoint, trim_endpoint, hsplit, List.append_assoc,
      List.cons_append, Text.cutAt_append_cons hfront]
  · rw [Url.queryText, Text.cutAt_of_not_mem htrim, hbase, hsplit, List.append_assoc,
      List.cons_append, Text.rdropWhile_append_cons (by decide), Text.cutAt_append_cons hfront]

/-- A base URL with a mark is read like its endpoint, up to the query and the fragment. -/
theorem exists_ofText?_base {e : Url} (he : Url.ofText? (endpoint base) = .ok e)
    (h : ¬ Unmarked base.toList) :
    ∃ b, Url.ofText? base = .ok b ∧ e.scheme = b.scheme ∧ e.authority = b.authority ∧
      e.path = b.path ∧ ('#' ∈ base.toList → e.query = b.query) := by
  obtain ⟨⟨rest, hscheme, hparts⟩, hquery, -⟩ := Url.ofText?_eq_ok_iff.mp he
  rw [placeText_endpoint h] at hscheme
  obtain ⟨b, hb, hbscheme, hbparts⟩ := Url.exists_ofText?_of_place hscheme hparts
  obtain ⟨hbauthority, hbpath⟩ := Prod.mk.inj hbparts
  refine ⟨b, hb, hbscheme.symm, hbauthority.symm, hbpath.symm, fun hhash ↦ ?_⟩
  obtain ⟨-, hbquery, -⟩ := Url.ofText?_eq_ok_iff.mp hb
  rw [hquery, queryText_endpoint hhash, hbquery, hbscheme]

end StandingsRequest

end LeagueStandings
