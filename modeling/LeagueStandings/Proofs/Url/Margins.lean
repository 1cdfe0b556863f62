import LeagueStandings.Proofs.Url.Bare
import LeagueStandings.Proofs.Url.Percent

/-!
# Blanks behind a path

Blanks and control characters do not count at the ends of a URL, but they do count once something is
put behind them. Here they are put behind the path. Breaks are left out of it, so that the trail is
the same (`Trail.ofPath_append_breaks`). Any other blank is one more character of the last segment
(`Trail.length_ofPath_lt`): nothing is special about a segment that ends with one, and what is
special about a segment makes it no longer (`Trail.length_follow_le`).
-/

namespace LeagueStandings.Url

variable {kind : SchemeKind} {cs more : List Char} {c : Char}

/-- The text is blanks and control characters. -/
def IsMarginal (more : List Char) : Prop := ∀ c ∈ more, isMargin c = true

theorem ne_of_isMargin {sign : Char} (h : isMargin c = true) (hsign : isMargin sign = false) :
    c ≠ sign := by
  rintro rfl
  cases hsign.symm.trans h

theorem isSlash_of_isMargin (h : isMargin c = true) (kind : SchemeKind) :
    kind.isSlash c = false :=
  isSlash_eq_false ⟨ne_of_isMargin h rfl, ne_of_isMargin h rfl⟩ kind

theorem IsMarginal.withoutBreaks (h : IsMarginal more) : IsMarginal (withoutBreaks more) :=
  fun c hc ↦ h c (mem_withoutBreaks_iff.mp hc).1

theorem IsMarginal.exists_first (h : IsMarginal more) (hblank : Url.withoutBreaks more ≠ []) :
    ∃ c rest, Url.withoutBreaks more = c :: rest ∧ isMargin c = true := by
  obtain ⟨c, rest, hmore⟩ := List.exists_cons_of_ne_nil hblank
  exact ⟨c, rest, hmore, h.withoutBreaks c (hmore ▸ List.mem_cons_self)⟩

theorem IsMarginal.exists_last (h : IsMarginal more) (hblank : Url.withoutBreaks more ≠ []) :
    ∃ front c, Url.withoutBreaks more = front ++ [c] ∧ isMargin c = true :=
  ⟨_, _, (List.dropLast_append_getLast hblank).symm,
    h.withoutBreaks _ (List.getLast_mem hblank)⟩

theorem withoutBreaks_withoutBreaks (cs : List Char) :
    withoutBreaks (withoutBreaks cs) = withoutBreaks cs := by
  rw [withoutBreaks, withoutBreaks, List.filter_filter]
  simp

theorem isMarginal_of_breaks (h : withoutBreaks more = []) : IsMarginal more := by
  intro c hc
  by_contra hmargin
  have hbreak : isBreak c = false := by
    refine Bool.eq_false_iff.mpr fun hbreak ↦ hmargin ?_
    simp only [isBreak, Bool.or_eq_true, beq_iff_eq] at hbreak
    rcases hbreak with (rfl | rfl) | rfl <;> rfl
  have hmem : c ∈ Url.withoutBreaks more := mem_withoutBreaks_iff.mpr ⟨hc, hbreak⟩
  rw [h] at hmem
  cases hmem

/-! ## The characters of a trail -/

theorem withoutBreaks_dropWhile (cs : List Char) :
    withoutBreaks (cs.dropWhile isBreak) = withoutBreaks cs := by
  have hfront : withoutBreaks (cs.takeWhile isBreak) = [] :=
    List.filter_eq_nil_iff.mpr fun c hc ↦ by simp [List.mem_takeWhile_imp hc]
  rw [← List.nil_append (withoutBreaks (cs.dropWhile isBreak)), ← hfront, ← withoutBreaks_append,
    List.takeWhile_append_dropWhile]

theorem withoutBreaks_cons (h : isBreak c = false) (cs : List Char) :
    withoutBreaks (c :: cs) = c :: withoutBreaks cs := List.filter_cons_of_pos (by simp [h])

theorem head_dropWhile {rest : List Char} (h : cs.dropWhile isBreak = c :: rest) :
    isBreak c = false := by
  have hhead := List.head?_dropWhile_not isBreak cs
  rw [h] at hhead
  simpa using hhead

theorem keptInPath_of_isAlpha (h : c.isAlpha = true) : Percent.keptInPath c = true := by
  have hall : ∀ n < 0x80, (Char.ofNat n).isAlpha = true →
      Percent.keptInPath (Char.ofNat n) = true := by decide
  have hascii : c.toNat < 0x80 := by
    rcases Bool.or_eq_true_iff.mp h with hupper | hlower
    · have hle : _ ∧ c.val ≤ 'Z'.val := of_decide_eq_true hupper
      exact Nat.lt_of_le_of_lt (UInt32.le_iff_toNat_le.mp hle.2) (by decide)
    · have hle : c.val ≤ 'z'.val := of_decide_eq_true (Bool.and_eq_true_iff.mp hlower).2
      exact Nat.lt_of_le_of_lt (UInt32.le_iff_toNat_le.mp hle) (by decide)
  rw [← Char.ofNat_toNat c] at h ⊢
  exact hall _ hascii h

/-- What is put down for a segment, whatever it means. -/
def weight (segment : List Char) : Nat :=
  (Percent.encode Percent.keptInPath (withoutBreaks segment)).length

namespace Trail

variable {trail : Trail} {segment : List Char} {isLast : Bool}

/-- How many characters the segments have, as they are written. -/
def length (trail : Trail) : Nat := trail.segments.flatten.length

theorem length_descend (trail : Trail) (segment : List Char) : (trail.descend segment).length =
    (Percent.encode Percent.keptInPath segment).length + trail.length := by
  rw [length, descend, List.flatten_cons, List.length_append, length]

theorem length_rest (trail : Trail) (isLast : Bool) :
    (trail.rest isLast).length = trail.length := by
  cases isLast <;> rfl

theorem length_leave_le (segments : List (List Char)) :
    (leave segments).flatten.length ≤ segments.flatten.length := by
  cases segments with
  | nil => exact Nat.le_refl _
  | cons segment before =>
    rw [leave]
    split
    · exact Nat.le_refl _
    · rw [List.flatten_cons, List.length_append]
      exact Nat.le_add_left _ _

theorem withoutBreaks_of_cutDriveLetter? {drive below : List Char}
    (h : cutDriveLetter? segment = some (drive, below)) :
    withoutBreaks segment = drive ++ below := by
  unfold cutDriveLetter? at h
  split at h
  · cases h
  · next letter rest hletter =>
    split at h
    · next mark rest hmark =>
      obtain ⟨hdrive, hcut⟩ := Option.ite_none_right_eq_some.mp h
      cases hcut
      simp only [Bool.and_eq_true] at hdrive
      rw [← withoutBreaks_dropWhile, hletter, withoutBreaks_cons (head_dropWhile hletter),
        ← withoutBreaks_dropWhile, hmark, withoutBreaks_cons (by rfl), withoutBreaks]
      exact congrArg (letter :: ':' :: ·) (List.filter_cons_of_neg (by simp [hdrive.1.2]))
    · cases h

theorem length_descend_descend {drive below : List Char}
    (h : cutDriveLetter? segment = some (drive, below)) :
    ((trail.descend drive).descend below).length = trail.length + weight segment := by
  rw [length_descend, length_descend, weight, withoutBreaks_of_cutDriveLetter? h, Percent.encode_append,
    List.length_append]
  omega

theorem length_descend_of_isDriveLetter (trail : Trail) (h : isDriveLetter segment = true) :
    (trail.descend (segment.take 1 ++ [':'])).length ≤ trail.length + segment.length := by
  unfold isDriveLetter at h
  split at h
  · next letter mark =>
    have hkept : Percent.keptInPath letter = true :=
      keptInPath_of_isAlpha (Bool.and_eq_true_iff.mp h).1
    have hcolon : Percent.encodeChar Percent.keptInPath ':' = [':'] := by decide
    rw [length_descend, List.take_succ_cons, List.take_zero, Percent.encode, List.flatMap_append,
      List.flatMap_singleton, List.flatMap_singleton, Percent.encodeChar, if_pos hkept, hcolon]
    exact Nat.le_of_eq (Nat.add_comm _ _)
  · cases h

theorem length_follow_le (trail : Trail) (segment : List Char) (isLast : Bool) :
    (trail.follow kind segment isLast).length ≤ trail.length + weight segment := by
  unfold follow
  dsimp only
  split
  · next drive below hcut =>
    rw [length_descend_descend (Option.ite_none_right_eq_some.mp hcut).2]
  · split
    · rw [length_rest]
      exact Nat.le_trans (length_leave_le trail.segments) (Nat.le_add_right _ _)
    · split
      · rw [length_rest]
        exact Nat.le_add_right _ _
      · split
        · next hdrive =>
          have hle := length_descend_of_isDriveLetter trail (Bool.and_eq_true_iff.mp hdrive).2
          exact Nat.le_trans hle (Nat.add_le_add_left (Percent.length_le_length_encode _ _) _)
        · rw [length_descend, weight, Nat.add_comm]

theorem plain_of_isMargin (hc : isMargin c = true) (front : List Char) :
    isDoubleDot (front ++ [c]) = false ∧ isDot (front ++ [c]) = false ∧
      isDriveLetter (front ++ [c]) = false := by
  have hlower : c.toLower = c := by
    have hsmall : ¬ (c.val ≥ 'A'.val ∧ c.val ≤ 'Z'.val) := by
      rintro ⟨hge, -⟩
      have hle : c.val ≤ 0x20 := of_decide_eq_true hc
      exact absurd (UInt32.le_trans hge hle) (by decide)
    exact dif_neg hsmall
  have hne : ∀ word : String, word.toList.getLast?.all (!isMargin ·) = true →
      word.toList ≠ (front ++ [c]).map Char.toLower := by
    intro word hword heq
    rw [heq, List.map_append, List.map_singleton, hlower, List.getLast?_concat] at hword
    simp [hc] at hword
  refine ⟨?_, ?_, ?_⟩
  · have hwords : ∀ word ∈ ["..", ".%2e", "%2e.", "%2e%2e"],
        word.toList.getLast?.all (!isMargin ·) = true := by decide
    exact List.any_eq_false.mpr fun word hword heq ↦
      hne word (hwords word hword) (beq_iff_eq.mp heq)
  · have hdot := (hne "." (by decide)).symm
    have hcode := (hne "%2e" (by decide)).symm
    rw [isDot, beq_eq_false_iff_ne.mpr hdot, beq_eq_false_iff_ne.mpr hcode]
    rfl
  · match front with
    | [] => rfl
    | [letter] =>
      have hcolon : c ≠ ':' := ne_of_isMargin hc rfl
      have hbar : c ≠ '|' := ne_of_isMargin hc rfl
      have hmark : (c == ':' || c == '|') = false := by simp [hcolon, hbar]
      rw [List.singleton_append, isDriveLetter, hmark, Bool.and_false]
    | _ :: _ :: rest => cases rest <;> rfl

/-- Behind a blank nothing is special about a segment. -/
theorem length_follow_of_isMargin {front : List Char} (hc : isMargin c = true)
    (h : withoutBreaks segment = front ++ [c]) (trail : Trail) (isLast : Bool) :
    (trail.follow kind segment isLast).length = trail.length + weight segment := by
  obtain ⟨hdouble, hdot, hdrive⟩ := plain_of_isMargin hc front
  unfold follow
  dsimp only
  split
  · next drive below hcut =>
    exact length_descend_descend (Option.ite_none_right_eq_some.mp hcut).2
  · rw [h, hdouble, hdot, hdrive, Bool.and_false, if_neg Bool.false_ne_true,
      if_neg Bool.false_ne_true, if_neg Bool.false_ne_true, length_descend, weight, h, Nat.add_comm]

theorem cutDriveLetter?_append_breaks (h : withoutBreaks more = []) (segment : List Char) :
    cutDriveLetter? (segment ++ more) = cutDriveLetter? segment := by
  have hmore := dropWhile_of_breaks h
  unfold cutDriveLetter?
  rw [List.dropWhile_append, hmore]
  cases segment.dropWhile isBreak with
  | nil => rfl
  | cons letter rest =>
    rw [List.isEmpty_cons, if_neg Bool.false_ne_true, List.cons_append]
    dsimp only
    rw [List.dropWhile_append, hmore]
    cases rest.dropWhile isBreak with
    | nil => rfl
    | cons colon rest =>
      rw [List.isEmpty_cons, if_neg Bool.false_ne_true, List.cons_append]
      by_cases hcolon : colon = ':'
      · subst hcolon
        cases rest with
        | nil =>
          cases more with
          | nil => rfl
          | cons mark more =>
            have hrest : withoutBreaks more = [] := by
              refine List.filter_eq_nil_iff.mpr fun c hc ↦ ?_
              exact List.filter_eq_nil_iff.mp h c (List.mem_cons_of_mem mark hc)
            simp [hrest]
        | cons mark rest =>
          have hrest : withoutBreaks (rest ++ more) = withoutBreaks rest := by
            rw [withoutBreaks_append, h, List.append_nil]
          simp only [List.cons_append, hrest]
      · split
        · next heq => exact absurd (List.cons.inj heq).1 hcolon
        · split
          · next heq => exact absurd (List.cons.inj heq).1 hcolon
          · rfl

theorem follow_append_breaks (h : withoutBreaks more = []) (trail : Trail)
    (segment : List Char) (isLast : Bool) :
    trail.follow kind (segment ++ more) isLast = trail.follow kind segment isLast := by
  rw [follow, cutDriveLetter?_append_breaks h, withoutBreaks_append, h, List.append_nil]
  rfl

/-- The trail of a path and of the same path with blanks behind it, which end in one segment. -/
theorem exists_ofPath_append (h : IsMarginal more) (kind : SchemeKind) (cs : List Char) :
    ∃ trail last, ofPath kind cs = follow kind trail last true ∧
      ofPath kind (cs ++ more) = follow kind trail (last ++ more) true := by
  obtain ⟨pieces, last, hpieces, hmore⟩ := Text.exists_splitAt_append (p := kind.isSlash)
    (fun c hc ↦ isSlash_of_isMargin (h c hc) kind) cs
  refine ⟨walk kind {} pieces, last, ?_, ?_⟩
  · rw [ofPath, hpieces, followAll_append _ _ (List.cons_ne_nil _ _)]
    rfl
  · rw [ofPath, hmore, followAll_append _ _ (List.cons_ne_nil _ _)]
    rfl

theorem ofPath_append_breaks (h : withoutBreaks more = []) (cs : List Char) :
    ofPath kind (cs ++ more) = ofPath kind cs := by
  obtain ⟨trail, last, hcs, hmore⟩ := exists_ofPath_append (isMarginal_of_breaks h) kind cs
  rw [hcs, hmore, follow_append_breaks h]

/-- **A path with blanks behind it** has more characters, unless they are breaks. -/
theorem length_ofPath_lt (h : IsMarginal more) (hblank : withoutBreaks more ≠ [])
    (cs : List Char) : (ofPath kind cs).length < (ofPath kind (cs ++ more)).length := by
  obtain ⟨trail, last, hcs, hmore⟩ := exists_ofPath_append h kind cs
  obtain ⟨front, c, hfront, hc⟩ := h.exists_last hblank
  have hwithout : withoutBreaks (last ++ more) = (withoutBreaks last ++ front) ++ [c] := by
    rw [withoutBreaks_append, hfront, List.append_assoc]
  have hle : (trail.follow kind last true).length ≤ trail.length + weight last :=
    length_follow_le trail last true
  have hweight : weight last < weight (last ++ more) := by
    have hpos := Nat.lt_of_lt_of_le (List.length_pos_iff.mpr hblank)
      (Percent.length_le_length_encode Percent.keptInPath _)
    rw [weight, weight, withoutBreaks_append, Percent.encode_append, List.length_append]
    exact Nat.lt_add_of_pos_right hpos
  rw [hcs, hmore, length_follow_of_isMargin hc hwithout]
  omega

end Trail

/-! ## The segments of a path -/

theorem afterSlash?_append_margins (h : IsMarginal more) (kind : SchemeKind) (cs : List Char) :
    afterSlash? kind (cs ++ more) = (afterSlash? kind cs).map (· ++ more) := by
  rw [afterSlash?, afterSlash?, List.dropWhile_append]
  cases cs.dropWhile isBreak with
  | nil =>
    rw [List.isEmpty_nil, if_pos rfl]
    cases hmore : more.dropWhile isBreak with
    | nil => rfl
    | cons c rest =>
      have hc : c ∈ more := (List.dropWhile_sublist _).subset (hmore ▸ List.mem_cons_self)
      exact if_neg (by rw [isSlash_of_isMargin (h c hc)]; decide)
  | cons c rest =>
    rw [List.isEmpty_cons, if_neg Bool.false_ne_true, List.cons_append]
    dsimp only
    split <;> rfl

theorem length_segments (kind : SchemeKind) (cs : List Char) :
    (segments kind cs).flatten.length =
      (Trail.ofPath kind ((afterSlash? kind cs).getD cs)).length := by
  rw [segments, Trail.length, (List.reverse_perm _).flatten.length_eq]

theorem length_segments_lt (h : IsMarginal more) (hblank : withoutBreaks more ≠ [])
    (cs : List Char) :
    (segments kind cs).flatten.length < (segments kind (cs ++ more)).flatten.length := by
  rw [length_segments, length_segments, afterSlash?_append_margins h]
  cases afterSlash? kind cs with
  | none => exact Trail.length_ofPath_lt h hblank cs
  | some rest => exact Trail.length_ofPath_lt h hblank rest

theorem flatten_withoutLeadingEmpty (segments : List (List Char)) :
    (withoutLeadingEmpty segments).flatten = segments.flatten := by
  have hempty : (segments.takeWhile (· == [])).flatten = [] := by
    rw [List.flatten_eq_nil_iff]
    exact fun segment hsegment ↦ beq_iff_eq.mp (List.mem_takeWhile_imp (p := (· == [])) hsegment)
  have hdrop : (segments.dropWhile (· == [])).flatten = segments.flatten := by
    conv_rhs => rw [← List.takeWhile_append_dropWhile (p := (· == [])) (l := segments),
      List.flatten_append, hempty, List.nil_append]
  rw [← hdrop, withoutLeadingEmpty]
  split
  · next hnil => rw [hnil]; rfl
  · rfl

end LeagueStandings.Url
