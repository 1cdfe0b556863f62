import LeagueStandings.Proofs.Url.Continuing

/-!
# URLs without a place

Behind the scheme of a URL there may be nothing but slashes, and breaks between them. On the web
this is no URL: there has to be a host, and slashes in front of it are skipped. Other schemes do
without one (`exists_parts?_of_not_namesPlace`).

What a name behind such text becomes depends on how many slashes there are in all. Behind two it is
a host; otherwise it belongs to the path (`parts?_file_append_name`, `parts?_other_append_name`).
-/

namespace LeagueStandings.Url

variable {kind : SchemeKind} {name cs : List Char}

/-! ## Slashes and breaks -/

theorem not_namesPlace_iff :
    ¬ NamesPlace kind cs ↔ ∀ c ∈ withoutBreaks cs, kind.isSlash c = true := by
  constructor
  · intro h c hc
    obtain ⟨hmem, hbreak⟩ := mem_withoutBreaks_iff.mp hc
    by_contra hslash
    exact h ⟨c, hmem, hbreak, Bool.eq_false_iff.mpr hslash⟩
  · rintro h ⟨c, hmem, hbreak, hslash⟩
    cases hslash.symm.trans (h c (mem_withoutBreaks_iff.mpr ⟨hmem, hbreak⟩))

theorem not_namesPlace_of_subset {other : List Char} (h : ¬ NamesPlace kind cs)
    (hsub : other ⊆ cs) : ¬ NamesPlace kind other := by
  rintro ⟨c, hc, hplace⟩
  exact h ⟨c, hsub hc, hplace⟩

theorem dropWhile_of_breaks (h : withoutBreaks cs = []) : cs.dropWhile isBreak = [] := by
  rw [List.dropWhile_eq_nil_iff]
  intro c hc
  by_contra hbreak
  have hmem : c ∈ withoutBreaks cs := mem_withoutBreaks_iff.mpr ⟨hc, Bool.eq_false_iff.mpr hbreak⟩
  rw [h] at hmem
  cases hmem

/-- Text without a place is breaks, or begins with breaks and a slash. -/
theorem afterSlash?_of_not_namesPlace (h : ¬ NamesPlace kind cs) :
    (withoutBreaks cs = [] ∧ ∀ more, afterSlash? kind (cs ++ more) = afterSlash? kind more) ∨
      ∃ rest, ¬ NamesPlace kind rest ∧
        (withoutBreaks cs).length = (withoutBreaks rest).length + 1 ∧
        ∀ more, afterSlash? kind (cs ++ more) = some (rest ++ more) := by
  induction cs with
  | nil => exact .inl ⟨rfl, fun _ ↦ rfl⟩
  | cons c cs ih =>
    have hcs : ¬ NamesPlace kind cs := not_namesPlace_of_subset h (List.subset_cons_self c cs)
    cases hbreak : isBreak c with
    | true =>
      have hwithout : withoutBreaks (c :: cs) = withoutBreaks cs :=
        List.filter_cons_of_neg (by simp [hbreak])
      have hafter : ∀ more, afterSlash? kind (c :: cs ++ more) = afterSlash? kind (cs ++ more) := by
        intro more
        rw [afterSlash?, List.cons_append, List.dropWhile_cons_of_pos hbreak]
        rfl
      simp only [hwithout, hafter]
      exact ih hcs
    | false =>
      have hslash : kind.isSlash c = true :=
        not_namesPlace_iff.mp h c (mem_withoutBreaks_iff.mpr ⟨List.mem_cons_self, hbreak⟩)
      refine .inr ⟨cs, hcs, ?_, fun more ↦ ?_⟩
      · rw [withoutBreaks, List.filter_cons_of_pos (by simp [hbreak])]
        rfl
      · rw [List.cons_append, afterSlash?_cons hbreak, if_pos hslash]

/-! ## Their paths -/

namespace Trail

theorem cutDriveLetter?_eq_none (h : withoutBreaks cs = []) : cutDriveLetter? cs = none := by
  rw [cutDriveLetter?, dropWhile_of_breaks h]

theorem follow_of_breaks (h : withoutBreaks cs = []) (trail : Trail) (isLast : Bool) :
    trail.follow kind cs isLast = trail.enter [] := by
  have hnil : trail.follow kind [] isLast = trail.enter [] :=
    follow_of_isPlainSegment isPlainSegment_nil trail isLast
  rw [← hnil]
  unfold follow
  rw [cutDriveLetter?_eq_none h, h]
  rfl

theorem walk_of_breaks {pieces : List (List Char)} (h : ∀ piece ∈ pieces, withoutBreaks piece = [])
    (trail : Trail) : walk kind trail pieces =
      { trail with segments := List.replicate pieces.length [] ++ trail.segments } := by
  induction pieces generalizing trail with
  | nil => rfl
  | cons piece pieces ih =>
    obtain ⟨hpiece, hpieces⟩ := List.forall_mem_cons.mp h
    have hstep : walk kind trail (piece :: pieces) = walk kind (trail.enter []) pieces :=
      congrArg (walk kind · pieces) (follow_of_breaks hpiece trail false)
    rw [hstep, ih hpieces, enter, List.length_cons, List.replicate_succ', List.append_assoc]
    rfl

theorem exists_ahead (h : ¬ NamesPlace kind cs) :
    ∃ k, ahead kind cs = { segments := List.replicate k [] } := by
  refine ⟨(Text.splitAt kind.isSlash cs).length, ?_⟩
  rw [ahead, walk_of_breaks, List.append_nil]
  intro piece hpiece
  refine List.filter_eq_nil_iff.mpr fun c hc ↦ ?_
  have hsep := Text.of_mem_splitAt hpiece c hc
  have hmem := Text.mem_of_mem_splitAt hpiece hc
  intro hbreak
  exact h ⟨c, hmem, by simpa using hbreak, hsep⟩

end Trail

/-! ## The web -/

theorem parts?_web_append {n : Nat} (h : ¬ NamesPlace (.web n) cs) (more : List Char) :
    parts? (.web n) (cs ++ more) = parts? (.web n) more := by
  unfold parts?
  dsimp only
  rw [withoutBreaks_append, List.dropWhile_append_of_pos (not_namesPlace_iff.mp h)]

theorem parts?_web_of_not_namesPlace {n : Nat} (h : ¬ NamesPlace (.web n) cs) :
    parts? (.web n) cs = .error .emptyHost := by
  rw [← List.append_nil cs, parts?_web_append h]
  rfl

/-- There is no host, or an empty one. -/
def IsHostless (authority : Option Authority) : Prop :=
  authority = none ∨ authority = some ⟨[], [], .name [], none⟩

/-! ## Files -/

theorem withoutLeadingEmpty_replicate (k : Nat) :
    withoutLeadingEmpty (List.replicate k []) = [[]] := by
  refine withoutLeadingEmpty_of_eq_nil (List.dropWhile_eq_nil_iff.mpr fun segment hsegment ↦ ?_)
  rw [List.eq_of_mem_replicate hsegment]
  rfl

theorem withoutLeadingEmpty_replicate_append (hname : name ≠ []) (k : Nat) :
    withoutLeadingEmpty (List.replicate k [] ++ [name]) = [name] := by
  have hdrop : (List.replicate k [] ++ [name]).dropWhile (· == []) = [name] := by
    induction k with
    | zero => exact List.dropWhile_cons_of_neg (by simpa using hname)
    | succ k ih =>
      rw [List.replicate_succ, List.cons_append, List.dropWhile_cons_of_pos rfl, ih]
  have hne : (List.replicate k [] ++ [name]).dropWhile (· == []) ≠ [] := by
    rw [hdrop]
    exact List.cons_ne_nil _ _
  rw [withoutLeadingEmpty_of_ne_nil hne, hdrop]

theorem partsOfFile_of_not_namesPlace (h : ¬ NamesPlace .file cs) :
    partsOfFile (.name [], cs) = (some ⟨[], [], .name [], none⟩, .segments [[]]) := by
  obtain ⟨j, hj⟩ := Trail.exists_ofPath_append_slashes .file cs 0
  obtain ⟨k, hk⟩ := Trail.exists_ahead h
  rw [List.replicate_zero, List.append_nil, hk] at hj
  rw [partsOfFile, hj]
  dsimp only
  rw [List.replicate_append_replicate, List.reverse_replicate, withoutLeadingEmpty_replicate]
  rfl

theorem partsOfFile_append_name (hname : IsPlainSegment name) (hne : name ≠ [])
    (h : ¬ NamesPlace .file cs) :
    partsOfFile (.name [], cs ++ '/' :: name) =
      (some ⟨[], [], .name [], none⟩, .segments [name]) := by
  obtain ⟨k, hk⟩ := Trail.exists_ahead h
  rw [partsOfFile, Trail.ofPath_append_segment hname, hk]
  dsimp only [Trail.enter]
  rw [List.reverse_cons, List.reverse_replicate, withoutLeadingEmpty_replicate_append hne]
  rfl

theorem hostAndPath?_of_not_namesPlace (h : ¬ NamesPlace .file cs) {more : List Char}
    (hmore : ∀ c ∈ more.head?, c = '/') :
    ∃ path, ¬ NamesPlace .file path ∧ hostAndPath? (cs ++ more) = .ok (.name [], path ++ more) := by
  have hhead : ∀ c ∈ more.head?, (!SchemeKind.file.isSlash c) = false := by
    intro c hc
    rw [hmore c hc]
    rfl
  have hhost : withoutBreaks (cs.takeWhile (!SchemeKind.file.isSlash ·)) = [] := by
    refine List.filter_eq_nil_iff.mpr fun c hc hbreak ↦ ?_
    have hslash := List.mem_takeWhile_imp hc
    exact h ⟨c, (List.takeWhile_sublist _).subset hc, by simpa using hbreak, by simpa using hslash⟩
  refine ⟨cs.dropWhile (!SchemeKind.file.isSlash ·),
    not_namesPlace_of_subset h (List.dropWhile_sublist _).subset, ?_⟩
  rw [hostAndPath?, Text.takeWhile_append hhead, Text.dropWhile_append hhead, hhost]
  rfl

private theorem exists_filePlace? (h : ¬ NamesPlace .file cs) :
    ∃ path, ¬ NamesPlace .file path ∧ filePlace? cs = .ok (.name [], path) := by
  rw [← List.append_nil cs]
  rcases afterSlash?_of_not_namesPlace h with ⟨-, hafter⟩ | ⟨one, hone, -, hafter⟩
  · exact ⟨cs ++ [], by rwa [List.append_nil], by rw [filePlace?, hafter]; rfl⟩
  · rw [filePlace?, hafter]
    dsimp only
    rcases afterSlash?_of_not_namesPlace hone with ⟨-, hafter⟩ | ⟨two, htwo, -, hafter⟩
    · exact ⟨one ++ [], by rwa [List.append_nil], by rw [hafter]; rfl⟩
    · rw [hafter]
      dsimp only
      have hnone : ∀ c ∈ ([] : List Char).head?, c = '/' := by
        rintro c ⟨⟩
      obtain ⟨path, hpath, hread⟩ := hostAndPath?_of_not_namesPlace htwo hnone
      exact ⟨path ++ [], by rwa [List.append_nil], hread⟩

/-- **A name behind the slashes of a file.** Behind two of them it is the host. -/
theorem parts?_file_append_name (hname : IsPlainSegment name) (hne : name ≠ [])
    (hafter : afterSlash? .file name = none) (h : ¬ NamesPlace .file cs) :
    parts? .file (cs ++ '/' :: name) =
      if (withoutBreaks cs).length = 1 then (hostAndPath? name).map partsOfFile
      else .ok (some ⟨[], [], .name [], none⟩, .segments [name]) := by
  have hslash : ∀ c ∈ ('/' :: name).head?, c = '/' := by
    rintro c ⟨⟩
    rfl
  rw [parts?, fileParts?_eq, filePlace?]
  rcases afterSlash?_of_not_namesPlace h with ⟨hnil, hzero⟩ | ⟨one, hone, hlength, hread⟩
  · rw [hzero, afterSlash?_slash, hnil, if_neg (by decide)]
    dsimp only
    rw [hafter]
    have hparts : partsOfFile (.name [], name) =
        (some ⟨[], [], .name [], none⟩, .segments [name]) := by
      rw [partsOfFile, Trail.ofPath_of_isPlainSegment hname]
      exact congrArg (fun segments ↦ (some _, UrlPath.segments segments))
        (withoutLeadingEmpty_replicate_append hne 0)
    exact congrArg Except.ok hparts
  · rw [hread, hlength]
    dsimp only
    rcases afterSlash?_of_not_namesPlace hone with ⟨hnil, hzero⟩ | ⟨two, htwo, hlength, hread⟩
    · rw [hzero, afterSlash?_slash, hnil, if_pos (by rfl)]
    · rw [hread, hlength, if_neg (by omega)]
      dsimp only
      obtain ⟨path, hpath, hread⟩ := hostAndPath?_of_not_namesPlace htwo hslash
      rw [hread]
      exact congrArg Except.ok (partsOfFile_append_name hname hne hpath)

/-! ## Other schemes -/

/-- Their text is read without the breaks, so that it consists of slashes only. -/
theorem parts?_other_append (h : ¬ NamesPlace .other cs) (more : List Char) :
    parts? .other (cs ++ more) =
      parts? .other (List.replicate (withoutBreaks cs).length '/' ++ more) := by
  have hslashes : withoutBreaks cs = List.replicate (withoutBreaks cs).length '/' := by
    refine List.eq_replicate_of_mem fun c hc ↦ ?_
    simpa [SchemeKind.isSlash, SchemeKind.isSpecial] using not_namesPlace_iff.mp h c hc
  have htext : withoutBreaks (cs ++ more) =
      withoutBreaks (List.replicate (withoutBreaks cs).length '/' ++ more) := by
    rw [withoutBreaks_append, withoutBreaks_append, withoutBreaks_replicate, ← hslashes]
  unfold parts?
  dsimp only
  rw [htext]

theorem segments_replicate_append (hname : IsPlainSegment name) (k : Nat) :
    segments kind (List.replicate k '/' ++ '/' :: name) = List.replicate k [] ++ [name] := by
  cases k with
  | zero => exact segments_slash_cons hname
  | succ k =>
    have hahead : Trail.ahead kind (List.replicate k '/') =
        { segments := List.replicate (k + 1) [] } := by
      have hpieces : Text.splitAt kind.isSlash (List.replicate k '/') =
          List.replicate (k + 1) [] :=
        Text.splitAt_append_replicate (isSlash_slash kind) [] k
      rw [Trail.ahead, hpieces, Trail.walk_of_breaks, List.length_replicate, List.append_nil]
      intro piece hpiece
      rw [List.eq_of_mem_replicate hpiece]
      rfl
    rw [segments, List.replicate_succ, List.cons_append, afterSlash?_slash, Option.getD_some,
      Trail.ofPath_append_segment hname, hahead, Trail.enter]
    dsimp only
    rw [List.reverse_cons, List.reverse_replicate]

/-- Behind two slashes stands an empty authority if a slash follows, or nothing. -/
theorem parts?_other_replicate_append (k : Nat) {more : List Char}
    (hbreaks : withoutBreaks more = more) (hmore : ∀ c ∈ more.head?, c = '/') :
    parts? .other (List.replicate (k + 2) '/' ++ more) = .ok (some ⟨[], [], .name [], none⟩,
      .segments (if List.replicate k '/' ++ more = [] then []
        else segments .other (List.replicate k '/' ++ more))) := by
  have htext : withoutBreaks (List.replicate (k + 2) '/' ++ more) =
      '/' :: '/' :: (List.replicate k '/' ++ more) := by
    rw [withoutBreaks_append, withoutBreaks_replicate, hbreaks]
    rfl
  have hhead : ∀ c ∈ (List.replicate k '/' ++ more).head?, (c != '/') = false := by
    intro c hc
    rw [List.head?_append] at hc
    cases k with
    | zero => rw [hmore c hc, bne_self_eq_false]
    | succ k =>
      cases hc
      rfl
  have htake := Text.takeWhile_append hhead []
  have hdrop := Text.dropWhile_append hhead []
  rw [List.nil_append] at htake hdrop
  rw [parts?_other_of_authority htext, htake, hdrop]
  rfl

/-- **A name behind the slashes of another scheme.** Behind two of them it is the host. -/
theorem parts?_other_append_name (hname : IsPlainSegment name) (h : ¬ NamesPlace .other cs) :
    parts? .other (cs ++ '/' :: name) =
      match (withoutBreaks cs).length with
      | 0 => parts? .other ('/' :: name)
      | 1 => parts? .other ('/' :: '/' :: name)
      | k + 2 => .ok (some ⟨[], [], .name [], none⟩, .segments (List.replicate k [] ++ [name])) := by
  rw [parts?_other_append h]
  match (withoutBreaks cs).length with
  | 0 => rfl
  | 1 => rfl
  | k + 2 =>
    have hslash : ∀ c ∈ ('/' :: name).head?, c = '/' := by
      rintro c ⟨⟩
      rfl
    rw [parts?_other_replicate_append k (IsContinuation.withoutBreaks_eq hname (.inl rfl)) hslash,
      if_neg (List.append_ne_nil_of_right_ne_nil _ (List.cons_ne_nil _ _)),
      segments_replicate_append hname]

/-! ## All of them but the web -/

theorem not_namesPlace_append_replicate (h : ¬ NamesPlace kind cs) (k : Nat) :
    ¬ NamesPlace kind (cs ++ List.replicate k '/') := by
  rw [not_namesPlace_iff] at h ⊢
  intro c hc
  rw [withoutBreaks_append, withoutBreaks_replicate] at hc
  rcases List.mem_append.mp hc with hc | hc
  · exact h c hc
  · rw [List.eq_of_mem_replicate hc]
    exact isSlash_slash kind

/-- Without a place there is no host, and the path is empty. -/
theorem exists_parts?_of_not_namesPlace (hkind : ∀ n, kind ≠ .web n) (h : ¬ NamesPlace kind cs) :
    ∃ authority path, parts? kind cs = .ok (authority, path) ∧ IsHostless authority ∧
      ((∃ j, path = .segments (List.replicate j [])) ∨
        kind = .other ∧ withoutBreaks cs = [] ∧ path = .text []) := by
  cases kind with
  | web n => exact absurd rfl (hkind n)
  | file =>
    obtain ⟨path, hpath, hread⟩ := exists_filePlace? h
    rw [parts?, fileParts?_eq, hread]
    exact ⟨_, _, congrArg Except.ok (partsOfFile_of_not_namesPlace hpath), .inr rfl, .inl ⟨1, rfl⟩⟩
  | other =>
    rw [← List.append_nil cs, parts?_other_append h, List.append_nil, List.append_nil]
    rcases hlength : (withoutBreaks cs).length with _ | _ | k
    · have hnil := List.length_eq_zero_iff.mp hlength
      exact ⟨none, .text [], rfl, .inl rfl, .inr ⟨rfl, hnil, rfl⟩⟩
    · exact ⟨none, .segments [[]], rfl, .inl rfl, .inl ⟨1, rfl⟩⟩
    · have hnone : ∀ c ∈ ([] : List Char).head?, c = '/' := by
        rintro c ⟨⟩
      rw [← List.append_nil (List.replicate (k + 1 + 1) '/'),
        parts?_other_replicate_append k rfl hnone]
      refine ⟨_, _, rfl, .inr rfl, .inl ?_⟩
      split
      · exact ⟨0, rfl⟩
      · obtain ⟨j, hj⟩ := exists_segments_replicate k
        rw [List.append_nil]
        exact ⟨j, congrArg UrlPath.segments hj⟩

end LeagueStandings.Url
