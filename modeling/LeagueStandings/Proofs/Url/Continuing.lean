import LeagueStandings.Proofs.Url.Parts
import LeagueStandings.Proofs.Url.Paths
import Mathlib.Data.List.TakeWhile

/-!
# URLs that go on

The text of a URL up to its path, with a name or with slashes put behind it. If it names a place,
that is, if there is more to it than slashes, then both are read with the same authority, and the
one path goes on with the name where the other one ends (`exists_parts?_slashes`).

This is shown for one kind of scheme after the other, and always in the same way. What is put behind
the text takes no part in the reading of the authority (`Continues`).
-/

namespace LeagueStandings.Url

/-- There is more to the text than breaks and slashes. -/
def NamesPlace (kind : SchemeKind) (cs : List Char) : Prop :=
  ∃ c ∈ cs, isBreak c = false ∧ kind.isSlash c = false

/-- The one path is hierarchical and goes on with a name where the other one ends, or neither is
hierarchical. -/
inductive PathGoesOnWith (name : List Char) : UrlPath → UrlPath → Prop
  | segments {longer shorter : List (List Char)} (h : GoesOnWith name longer shorter) :
    PathGoesOnWith name (.segments longer) (.segments shorter)
  | text (longer shorter : List Char) : PathGoesOnWith name (.text longer) (.text shorter)

/-- What is put behind the text: slashes, or one slash and a name. -/
def IsContinuation (name more : List Char) : Prop :=
  more = '/' :: name ∨ ∃ k, more = List.replicate k '/'

/-- Whatever is put behind the text, the front of it is read first, and then the path is one that
goes on. -/
def Continues (kind : SchemeKind) (name cs : List Char) : Prop :=
  ∃ front : Except UrlError (Option Authority × (List Char → UrlPath)),
    (∀ more, IsContinuation name more →
      parts? kind (cs ++ more) = front.map fun place ↦ (place.1, place.2 more)) ∧
    ∀ place, front = .ok place → ∀ k,
      PathGoesOnWith name (place.2 ('/' :: name)) (place.2 (List.replicate k '/'))

variable {name cs more : List Char}

/-! ## Parts of the text -/

theorem withoutBreaks_append (a b : List Char) :
    withoutBreaks (a ++ b) = withoutBreaks a ++ withoutBreaks b := List.filter_append ..

theorem mem_withoutBreaks_iff {c : Char} : c ∈ withoutBreaks cs ↔ c ∈ cs ∧ isBreak c = false := by
  rw [withoutBreaks, List.mem_filter, Bool.not_eq_true']

theorem withoutBreaks_replicate (k : Nat) :
    withoutBreaks (List.replicate k '/') = List.replicate k '/' := by
  refine List.filter_eq_self.mpr fun c hc ↦ ?_
  rw [List.eq_of_mem_replicate hc]
  rfl

theorem IsContinuation.head? (h : IsContinuation name more) : ∀ c ∈ more.head?, c = '/' := by
  rintro c hc
  rcases h with rfl | ⟨k, rfl⟩
  · cases hc
    rfl
  · exact List.eq_of_mem_replicate (List.mem_of_mem_head? hc)

theorem IsContinuation.withoutBreaks_eq (hname : IsPlainSegment name)
    (h : IsContinuation name more) : withoutBreaks more = more := by
  rcases h with rfl | ⟨k, rfl⟩
  · rw [withoutBreaks, List.filter_cons_of_pos rfl, ← withoutBreaks, hname.noBreaks]
  · exact withoutBreaks_replicate k

/-! ## The web -/

private theorem continues_web (hname : IsPlainSegment name) (n : Nat)
    (hplace : NamesPlace (.web n) cs) : Continues (.web n) name cs := by
  obtain ⟨c, hc, hbreak, hslash⟩ := hplace
  let isSlash := (SchemeKind.web n).isSlash
  let text := (withoutBreaks cs).dropWhile isSlash
  let path := text.dropWhile (!isSlash ·)
  have hpath : ∀ d ∈ path, isBreak d = false := fun d hd ↦
    (mem_withoutBreaks_iff.mp
      ((List.dropWhile_sublist _).subset ((List.dropWhile_sublist _).subset hd))).2
  refine ⟨(authority? (.web n) (text.takeWhile (!isSlash ·))).map fun read ↦
    (some read.1, fun more ↦ .segments (segments (.web n) (path ++ more))), ?_, ?_⟩
  · intro more hmore
    have hhead : ∀ d ∈ more.head?, (!isSlash d) = false := fun d hd ↦ by
      rw [hmore.head? d hd]
      rfl
    have htext : (withoutBreaks (cs ++ more)).dropWhile isSlash = text ++ more := by
      rw [withoutBreaks_append, hmore.withoutBreaks_eq hname]
      exact Text.dropWhile_append_of_mem (mem_withoutBreaks_iff.mpr ⟨hc, hbreak⟩) hslash more
    have hauthority : (text ++ more).takeWhile (!isSlash ·) = text.takeWhile (!isSlash ·) :=
      Text.takeWhile_append hhead text
    have hrest : (text ++ more).dropWhile (!isSlash ·) = path ++ more :=
      Text.dropWhile_append hhead text
    unfold parts?
    dsimp only
    rw [htext, hauthority, hrest]
    cases authority? (.web n) (text.takeWhile (!isSlash ·)) <;> rfl
  · intro place hplace k
    obtain ⟨read, -, rfl⟩ := map_eq_ok_iff.mp hplace
    exact .segments (goesOnWith_segments hname hpath k)

/-! ## Other schemes -/

theorem parts?_other_of_authority {rest : List Char}
    (h : withoutBreaks cs = '/' :: '/' :: rest) :
    parts? .other cs = (authority? .other (rest.takeWhile (· != '/'))).map fun read ↦
      let path := read.2 ++ rest.dropWhile (· != '/')
      (some read.1, .segments (if path = [] then [] else segments .other path)) := by
  unfold parts?
  dsimp only
  rw [h]
  split
  · next heq =>
    cases heq
    cases authority? .other (rest.takeWhile (· != '/')) <;> rfl
  · next hnot heq =>
    cases heq
    exact absurd rfl (hnot _)
  · next hnot _ => exact absurd rfl (hnot _)

theorem parts?_other_of_path {c : Char} {rest : List Char} (hc : c ≠ '/')
    (h : withoutBreaks cs = '/' :: c :: rest) :
    parts? .other cs = .ok (none, .segments (segments .other ('/' :: c :: rest))) := by
  unfold parts?
  dsimp only
  rw [h]
  split
  · next heq => exact absurd (List.cons.inj (List.cons.inj heq).2).1 hc
  · next heq => exact (List.cons.inj heq).2 ▸ rfl
  · next hnot => exact absurd rfl (hnot _)

theorem parts?_other_of_text {c : Char} {rest : List Char} (hc : c ≠ '/')
    (h : withoutBreaks cs = c :: rest) :
    parts? .other cs = .ok (none, .text (Percent.encode Percent.isPlain (c :: rest))) := by
  unfold parts?
  dsimp only
  rw [h]
  split
  · next heq => exact absurd (List.cons.inj heq).1 hc
  · next heq => exact absurd (List.cons.inj heq).1 hc
  · rfl

private theorem continues_other_of_authority {rest : List Char} (hname : IsPlainSegment name)
    (h : withoutBreaks cs = '/' :: '/' :: rest) : Continues .other name cs := by
  have hrest : ∀ c ∈ rest, isBreak c = false := by
    intro c hc
    have hmem : c ∈ withoutBreaks cs := by
      rw [h]
      exact List.mem_cons_of_mem _ (List.mem_cons_of_mem _ hc)
    exact (mem_withoutBreaks_iff.mp hmem).2
  have hhead : ∀ more, IsContinuation name more → ∀ c ∈ more.head?, (c != '/') = false := by
    intro more hmore c hc
    rw [hmore.head? c hc]
    rfl
  refine ⟨(authority? .other (rest.takeWhile (· != '/'))).map fun read ↦
    (some read.1, fun more ↦
      let path := read.2 ++ rest.dropWhile (· != '/') ++ more
      .segments (if path = [] then [] else segments .other path)), fun more hmore ↦ ?_, ?_⟩
  · have htext : withoutBreaks (cs ++ more) = '/' :: '/' :: (rest ++ more) := by
      rw [withoutBreaks_append, hmore.withoutBreaks_eq hname, h]
      rfl
    rw [parts?_other_of_authority htext, Text.takeWhile_append (hhead more hmore),
      Text.dropWhile_append (hhead more hmore)]
    cases authority? .other (rest.takeWhile (· != '/')) with
    | error e => rfl
    | ok read => simp [Except.map]
  · intro place hplace k
    obtain ⟨⟨authority, afterPort⟩, hread, rfl⟩ := map_eq_ok_iff.mp hplace
    have hafter : afterPort ⊆ rest :=
      List.Subset.trans (authorityOf_of_authority? hread).rest (List.takeWhile_sublist _).subset
    have hpath : ∀ c ∈ afterPort ++ rest.dropWhile (· != '/'), isBreak c = false := by
      intro c hc
      rcases List.mem_append.mp hc with hc | hc
      · exact hrest c (hafter hc)
      · exact hrest c ((List.dropWhile_sublist _).subset hc)
    refine .segments ?_
    rw [if_neg (by simp)]
    split
    · next hnil =>
      obtain ⟨hnone, -⟩ := List.append_eq_nil_iff.mp hnil
      rw [hnone, List.nil_append, segments_slash_cons hname]
      exact ⟨[], 0, rfl, rfl⟩
    · exact goesOnWith_segments hname hpath k

private theorem continues_other_of_path {c : Char} {rest : List Char}
    (hname : IsPlainSegment name) (hc : c ≠ '/') (h : withoutBreaks cs = '/' :: c :: rest) :
    Continues .other name cs := by
  refine ⟨.ok (none, fun more ↦ .segments (segments .other ('/' :: c :: rest ++ more))),
    fun more hmore ↦ ?_, ?_⟩
  · refine parts?_other_of_path hc ?_
    rw [withoutBreaks_append, hmore.withoutBreaks_eq hname, h]
    rfl
  · rintro place ⟨⟩ k
    refine .segments (goesOnWith_segments hname (fun d hd ↦ ?_) k)
    rw [← h] at hd
    exact (mem_withoutBreaks_iff.mp hd).2

private theorem continues_other_of_text {c : Char} {rest : List Char}
    (hname : IsPlainSegment name) (hc : c ≠ '/') (h : withoutBreaks cs = c :: rest) :
    Continues .other name cs := by
  refine ⟨.ok (none, fun more ↦ .text (Percent.encode Percent.isPlain (c :: rest ++ more))),
    fun more hmore ↦ ?_, ?_⟩
  · refine parts?_other_of_text hc ?_
    rw [withoutBreaks_append, hmore.withoutBreaks_eq hname, h]
    rfl
  · rintro place ⟨⟩ k
    exact .text _ _

private theorem continues_other (hname : IsPlainSegment name) (hplace : NamesPlace .other cs) :
    Continues .other name cs := by
  obtain ⟨c, hc, hbreak, hslash⟩ := hplace
  have hmem : c ∈ withoutBreaks cs := mem_withoutBreaks_iff.mpr ⟨hc, hbreak⟩
  match htext : withoutBreaks cs with
  | [] => exact absurd (htext ▸ hmem) List.not_mem_nil
  | first :: rest =>
    by_cases hfirst : first = '/'
    · subst hfirst
      match rest, htext with
      | [], htext =>
        rw [htext, List.mem_singleton] at hmem
        exact absurd hslash (by rw [hmem]; decide)
      | second :: rest, htext =>
        by_cases hsecond : second = '/'
        · subst hsecond
          exact continues_other_of_authority hname htext
        · exact continues_other_of_path hname hsecond htext
    · exact continues_other_of_text hname hfirst htext

/-! ## Files -/

theorem GoesOnWith.withoutLeadingEmpty {after before : List (List Char)} (hname : name ≠ [])
    (h : GoesOnWith name after before) :
    GoesOnWith name (withoutLeadingEmpty after) (withoutLeadingEmpty before) := by
  obtain ⟨front, j, rfl, rfl⟩ := h
  have hafter : (front ++ [name]).dropWhile (· == []) = front.dropWhile (· == []) ++ [name] :=
    Text.dropWhile_append (by simpa using hname) front
  rw [withoutLeadingEmpty_of_ne_nil (hafter ▸ List.append_ne_nil_of_right_ne_nil _ (by simp)),
    hafter]
  by_cases hfront : front.dropWhile (· == []) = []
  · have hbefore : (front ++ List.replicate j []).dropWhile (· == []) = [] := by
      rw [List.dropWhile_append, hfront, List.isEmpty_nil, if_pos rfl, List.dropWhile_eq_nil_iff]
      intro segment hsegment
      rw [List.eq_of_mem_replicate hsegment]
      rfl
    rw [withoutLeadingEmpty_of_eq_nil hbefore, hfront]
    exact ⟨[], 1, rfl, rfl⟩
  · have hbefore : (front ++ List.replicate j []).dropWhile (· == []) =
        front.dropWhile (· == []) ++ List.replicate j [] := by
      rw [List.dropWhile_append, if_neg (by simpa using hfront)]
    rw [withoutLeadingEmpty_of_ne_nil
      (hbefore ▸ List.append_ne_nil_of_left_ne_nil hfront _), hbefore]
    exact ⟨_, j, rfl, rfl⟩

/-- The place of a file goes on: the same host, and a path that goes on. -/
private def PlaceContinues (name : List Char) (place : List Char → Host × List Char) : Prop :=
  (∀ more, IsContinuation name more →
    (partsOfFile (place more)).1 = (partsOfFile (place ('/' :: name))).1) ∧
  ∀ k, PathGoesOnWith name (partsOfFile (place ('/' :: name))).2
    (partsOfFile (place (List.replicate k '/'))).2

private theorem placeContinues_append (hname : IsPlainSegment name) (hne : name ≠ [])
    (host : Host) (path : List Char) :
    PlaceContinues name fun more ↦ (host, path ++ more) := by
  constructor
  · rintro more (rfl | ⟨k, rfl⟩)
    · rfl
    · obtain ⟨j, hj⟩ := Trail.exists_ofPath_append_slashes .file path k
      simp only [partsOfFile, hj, Trail.ofPath_append_segment hname, Trail.enter]
  · intro k
    exact .segments ((goesOnWith_ofPath hname path k).withoutLeadingEmpty hne)

private theorem placeContinues_drop (hname : IsPlainSegment name) (hne : name ≠ [])
    (host : Host) : PlaceContinues name fun more ↦ (host, more.drop 1) := by
  have hslashes : ∀ k, ∃ j, (List.replicate k '/').drop 1 = List.replicate j '/' :=
    fun k ↦ ⟨k - 1, List.drop_replicate⟩
  constructor
  · rintro more (rfl | ⟨k, rfl⟩)
    · rfl
    · obtain ⟨j, hj⟩ := hslashes k
      obtain ⟨i, hi⟩ := Trail.exists_ofPath_append_slashes .file [] j
      rw [List.nil_append] at hi
      simp only [partsOfFile, hj, hi, List.drop_one, List.tail_cons,
        Trail.ofPath_of_isPlainSegment hname, Trail.enter]
      rfl
  · intro k
    obtain ⟨j, hj⟩ := hslashes k
    obtain ⟨i, hi⟩ := Trail.exists_segments_ofPath_replicate .file j
    refine .segments (GoesOnWith.withoutLeadingEmpty hne ⟨[], i, ?_, ?_⟩)
    · dsimp only
      rw [List.drop_one, List.tail_cons, Trail.ofPath_of_isPlainSegment hname]
      rfl
    · dsimp only
      rw [hj, hi, List.reverse_replicate, List.nil_append]

/-- Behind the place of a host stands a path, a slash at least if there is a host. -/
private theorem placeContinues_behindHost (hname : IsPlainSegment name) (hne : name ≠ [])
    (host : Host) (path : List Char) : PlaceContinues name fun more ↦
      (host, if host = .name [] then path ++ more else (path ++ more).drop 1) := by
  by_cases hhost : host = .name []
  · simp only [if_pos hhost]
    exact placeContinues_append hname hne host path
  · simp only [if_neg hhost]
    cases path with
    | nil => exact placeContinues_drop hname hne host
    | cons first path => exact placeContinues_append hname hne host path

/-! ### Where the path of a file begins -/

private theorem afterSlash?_append {kind : SchemeKind} (hplace : NamesPlace kind cs)
    (more : List Char) : afterSlash? kind (cs ++ more) = (afterSlash? kind cs).map (· ++ more) := by
  obtain ⟨c, hc, hbreak, -⟩ := hplace
  unfold afterSlash?
  rw [Text.dropWhile_append_of_mem hc hbreak]
  cases hrest : cs.dropWhile isBreak with
  | nil => exact absurd (List.dropWhile_eq_nil_iff.mp hrest c hc) (by simp [hbreak])
  | cons first rest =>
    dsimp only [List.cons_append]
    split <;> rfl

private theorem namesPlace_of_afterSlash? {kind : SchemeKind} {rest : List Char}
    (hplace : NamesPlace kind cs) (h : afterSlash? kind cs = some rest) :
    NamesPlace kind rest := by
  obtain ⟨c, hc, hbreak, hslash⟩ := hplace
  have hkept : c ∈ cs.dropWhile isBreak := Text.mem_dropWhile_of_mem hc hbreak
  unfold afterSlash? at h
  split at h
  · next first rest' hdrop =>
    obtain ⟨hfirst, hrest⟩ := Option.ite_none_right_eq_some.mp h
    cases hrest
    rw [hdrop] at hkept
    refine ⟨c, (List.mem_cons.mp hkept).resolve_left ?_, hbreak, hslash⟩
    rintro rfl
    cases hslash.symm.trans hfirst
  · cases h

/-- Whatever is put behind the text of a file, its host is read from the text itself. -/
private def HasFront (name : List Char)
    (read : List Char → Except UrlError (Host × List Char)) : Prop :=
  ∃ front : Except UrlError (List Char → Host × List Char),
    (∀ more, IsContinuation name more → read more = front.map fun place ↦ place more) ∧
    ∀ place, front = .ok place → PlaceContinues name place

private theorem hasFront_of_append {read : List Char → Except UrlError (Host × List Char)}
    (hname : IsPlainSegment name) (hne : name ≠ []) (host : Host) (path : List Char)
    (h : ∀ more, IsContinuation name more → read more = .ok (host, path ++ more)) :
    HasFront name read := by
  refine ⟨.ok fun more ↦ (host, path ++ more), h, ?_⟩
  rintro place ⟨⟩
  exact placeContinues_append hname hne host path

private theorem hasFront_hostAndPath? (hname : IsPlainSegment name) (hne : name ≠ [])
    (cs : List Char) : HasFront name fun more ↦ hostAndPath? (cs ++ more) := by
  let isSlash := SchemeKind.file.isSlash
  let hostText := withoutBreaks (cs.takeWhile (!isSlash ·))
  let path := cs.dropWhile (!isSlash ·)
  have hread : ∀ more, IsContinuation name more → hostAndPath? (cs ++ more) =
      if isDriveLetter hostText then .ok (.name [], cs ++ more)
      else (fileHost? hostText).map fun host ↦
        (host, if host = .name [] then path ++ more else (path ++ more).drop 1) := by
    intro more hmore
    have hhead : ∀ d ∈ more.head?, (!isSlash d) = false := by
      intro d hd
      rw [hmore.head? d hd]
      rfl
    rw [hostAndPath?, Text.takeWhile_append hhead, Text.dropWhile_append hhead]
  by_cases hdrive : isDriveLetter hostText = true
  · refine hasFront_of_append hname hne (.name []) cs fun more hmore ↦ ?_
    rw [hread more hmore, if_pos hdrive]
  · refine ⟨(fileHost? hostText).map fun host more ↦
      (host, if host = .name [] then path ++ more else (path ++ more).drop 1),
      fun more hmore ↦ ?_, ?_⟩
    · refine (hread more hmore).trans ?_
      rw [if_neg hdrive]
      cases fileHost? hostText <;> rfl
    · intro place hfront
      obtain ⟨host, -, rfl⟩ := map_eq_ok_iff.mp hfront
      exact placeContinues_behindHost hname hne host path

private theorem hasFront_filePlace? (hname : IsPlainSegment name) (hne : name ≠ [])
    (hplace : NamesPlace .file cs) : HasFront name fun more ↦ filePlace? (cs ++ more) := by
  cases hone : afterSlash? .file cs with
  | none =>
    refine hasFront_of_append hname hne (.name []) cs fun more _ ↦ ?_
    rw [filePlace?, afterSlash?_append hplace, hone]
    rfl
  | some one =>
    have hplaceOne := namesPlace_of_afterSlash? hplace hone
    cases htwo : afterSlash? .file one with
    | none =>
      refine hasFront_of_append hname hne (.name []) one fun more _ ↦ ?_
      rw [filePlace?, afterSlash?_append hplace, hone, Option.map_some]
      dsimp only
      rw [afterSlash?_append hplaceOne, htwo]
      rfl
    | some two =>
      have hread : ∀ more, filePlace? (cs ++ more) = hostAndPath? (two ++ more) := by
        intro more
        rw [filePlace?, afterSlash?_append hplace, hone, Option.map_some]
        dsimp only
        rw [afterSlash?_append hplaceOne, htwo]
        rfl
      simp only [hread]
      exact hasFront_hostAndPath? hname hne two

private theorem continues_file (hname : IsPlainSegment name) (hne : name ≠ [])
    (hplace : NamesPlace .file cs) : Continues .file name cs := by
  obtain ⟨front, hfront, hcontinues⟩ := hasFront_filePlace? hname hne hplace
  refine ⟨front.map fun place ↦ ((partsOfFile (place ('/' :: name))).1,
    fun more ↦ (partsOfFile (place more)).2), fun more hmore ↦ ?_, ?_⟩
  · have hread : filePlace? (cs ++ more) = front.map fun place ↦ place more := hfront more hmore
    rw [parts?, fileParts?_eq, hread]
    cases hplace : front with
    | error e => rfl
    | ok place =>
      have hauthority := (hcontinues place hplace).1 more hmore
      exact congrArg Except.ok (Prod.ext hauthority rfl)
  · intro parts hparts k
    obtain ⟨place, hplace, rfl⟩ := map_eq_ok_iff.mp hparts
    exact (hcontinues place hplace).2 k

/-! ## All schemes -/

theorem continues (hname : IsPlainSegment name) (hne : name ≠ []) {kind : SchemeKind}
    (hplace : NamesPlace kind cs) : Continues kind name cs := by
  cases kind with
  | web n => exact continues_web hname n hplace
  | file => exact continues_file hname hne hplace
  | other => exact continues_other hname hplace

/-- **A URL that goes on.** If it can be read with a name behind its text, then it can be read with
slashes behind it, or nothing. -/
theorem exists_parts?_slashes (hname : IsPlainSegment name) (hne : name ≠ [])
    {kind : SchemeKind} (hplace : NamesPlace kind cs) {authority : Option Authority}
    {longer : UrlPath}
    (h : parts? kind (cs ++ '/' :: name) = .ok (authority, longer)) (k : Nat) :
    ∃ shorter, parts? kind (cs ++ List.replicate k '/') = .ok (authority, shorter) ∧
      PathGoesOnWith name longer shorter := by
  obtain ⟨front, hfront, hcontinues⟩ := continues hname hne hplace
  rw [hfront _ (.inl rfl)] at h
  obtain ⟨place, hok, hparts⟩ := map_eq_ok_iff.mp h
  cases hparts
  refine ⟨place.2 (List.replicate k '/'), ?_, hcontinues place hok k⟩
  rw [hfront _ (.inr ⟨k, rfl⟩), hok]
  rfl

end LeagueStandings.Url
