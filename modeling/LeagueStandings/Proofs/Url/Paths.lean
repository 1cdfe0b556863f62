import LeagueStandings.Proofs.Text.Split
import LeagueStandings.Url.Trail

/-!
# Paths that go on

What becomes of a path when more is put behind it. A plain segment is one level down from where the
path leads (`ofPath_append_segment`), and slashes are so many empty segments
(`exists_ofPath_append_slashes`). Both start from the place where the path leads if it goes on.

A path that ends with a dot segment leads to another place if it ends there: it has an empty segment
more.
-/

namespace LeagueStandings.Url

/-- Nothing is special about the segment: it is entered as it is written. -/
structure IsPlainSegment (segment : List Char) : Prop where
  noBreaks : withoutBreaks segment = segment
  noDot : isDot segment = false
  noDoubleDot : isDoubleDot segment = false
  noDrive : isDriveLetter segment = false
  uncut : cutDriveLetter? segment = none
  kept : Percent.encode Percent.keptInPath segment = segment
  noSlash : '/' ∉ segment ∧ '\\' ∉ segment

theorem isSlash_eq_false {c : Char} (h : c ≠ '/' ∧ c ≠ '\\') (kind : SchemeKind) :
    kind.isSlash c = false := by
  simp [SchemeKind.isSlash, h.1, h.2]

theorem isSlash_slash (kind : SchemeKind) : kind.isSlash '/' = true := rfl

namespace Trail

variable {kind : SchemeKind} {trail : Trail} {segment : List Char}

/-- The trail with one more segment, as it is. -/
def enter (trail : Trail) (segment : List Char) : Trail :=
  { trail with segments := segment :: trail.segments }

theorem follow_of_isPlainSegment (h : IsPlainSegment segment) (trail : Trail) (isLast : Bool) :
    trail.follow kind segment isLast = trail.enter segment := by
  unfold follow
  simp [h.uncut, h.noBreaks, h.noDot, h.noDoubleDot, h.noDrive, descend, enter, h.kept]

theorem isPlainSegment_nil : IsPlainSegment [] where
  noBreaks := rfl
  noDot := by decide
  noDoubleDot := by decide
  noDrive := rfl
  uncut := rfl
  kept := rfl
  noSlash := ⟨List.not_mem_nil, List.not_mem_nil⟩

theorem splitAt_of_isPlainSegment {name : List Char} (h : IsPlainSegment name) :
    Text.splitAt kind.isSlash name = [name] :=
  Text.splitAt_eq_singleton fun _ hc ↦ isSlash_eq_false
    ⟨fun hslash ↦ h.noSlash.1 (hslash ▸ hc), fun hslash ↦ h.noSlash.2 (hslash ▸ hc)⟩ kind

/-- Follows segments behind which the path goes on. -/
def walk (kind : SchemeKind) (trail : Trail) (segments : List (List Char)) : Trail :=
  segments.foldl (fun trail segment ↦ trail.follow kind segment false) trail

theorem followAll_append (first second : List (List Char)) (h : second ≠ []) :
    followAll kind trail (first ++ second) = followAll kind (walk kind trail first) second := by
  induction first generalizing trail with
  | nil => rfl
  | cons segment first ih =>
    have hmore : (first ++ second).isEmpty = false := by
      simp [h]
    rw [List.cons_append, followAll, hmore, ih]
    rfl

theorem followAll_replicate (k : Nat) : followAll kind trail (List.replicate k []) =
    { trail with segments := List.replicate k [] ++ trail.segments } := by
  induction k generalizing trail with
  | zero => rfl
  | succ k ih =>
    rw [List.replicate_succ, followAll, follow_of_isPlainSegment isPlainSegment_nil, ih, enter,
      ← List.replicate_succ, List.replicate_succ', List.append_assoc]
    rfl

/-- A path that ends at a dot segment has an empty segment more than one that goes on there. -/
theorem exists_follow_last (trail : Trail) (segment : List Char) : ∃ j,
    trail.follow kind segment true =
      { trail.follow kind segment false with
        segments := List.replicate j [] ++ (trail.follow kind segment false).segments } := by
  unfold follow
  dsimp only
  split
  · exact ⟨0, rfl⟩
  · split
    · exact ⟨1, rfl⟩
    · split
      · exact ⟨1, rfl⟩
      · split <;> exact ⟨0, rfl⟩

/-- Where the path leads if it goes on. -/
def ahead (kind : SchemeKind) (cs : List Char) : Trail :=
  walk kind {} (Text.splitAt kind.isSlash cs)

theorem ofPath_append_segment {name : List Char} (h : IsPlainSegment name) (cs : List Char) :
    ofPath kind (cs ++ '/' :: name) = (ahead kind cs).enter name := by
  rw [ofPath, Text.splitAt_append_cons (isSlash_slash kind), splitAt_of_isPlainSegment h,
    followAll_append _ _ (List.cons_ne_nil _ _)]
  exact follow_of_isPlainSegment h _ true

/-- With slashes behind it, or nothing, the path leads there too, but for empty segments. -/
theorem exists_ofPath_append_slashes (kind : SchemeKind) (cs : List Char) (k : Nat) : ∃ j,
    ofPath kind (cs ++ List.replicate k '/') =
      { ahead kind cs with
        segments := List.replicate j [] ++ (ahead kind cs).segments } := by
  rw [ofPath, Text.splitAt_append_replicate (isSlash_slash kind)]
  cases k with
  | zero =>
    obtain ⟨pieces, last, hsplit, -⟩ :=
      Text.exists_splitAt_append (p := kind.isSlash) (b := []) (by simp) cs
    obtain ⟨j, hj⟩ := exists_follow_last (walk kind {} pieces) last
    refine ⟨j, ?_⟩
    have hahead : ahead kind cs = (walk kind {} pieces).follow kind last false := by
      rw [ahead, hsplit, walk, List.foldl_append]
      rfl
    rw [List.replicate_zero, List.append_nil, hsplit,
      followAll_append _ _ (List.cons_ne_nil _ _), hahead, ← hj]
    rfl
  | succ k =>
    refine ⟨k + 1, ?_⟩
    rw [followAll_append _ _ (by simp), followAll_replicate, ahead]

theorem ofPath_of_isPlainSegment {name : List Char} (h : IsPlainSegment name) :
    ofPath kind name = enter {} name := by
  rw [ofPath, splitAt_of_isPlainSegment h]
  exact follow_of_isPlainSegment h {} true

theorem exists_segments_ofPath_replicate (kind : SchemeKind) (k : Nat) :
    ∃ j, (ofPath kind (List.replicate k '/')).segments = List.replicate j [] := by
  obtain ⟨j, hj⟩ := exists_ofPath_append_slashes kind [] k
  have hahead : ahead kind [] = enter {} [] := follow_of_isPlainSegment isPlainSegment_nil {} false
  rw [List.nil_append, hahead] at hj
  exact ⟨j + 1, by rw [hj, List.replicate_succ']; rfl⟩

end Trail

/-! ## Segments -/

/-- The first segments are the second ones, but for empty ones at their end, with a name behind. -/
def GoesOnWith (name : List Char) (longer shorter : List (List Char)) : Prop :=
  ∃ before j, longer = before ++ [name] ∧ shorter = before ++ List.replicate j []

theorem afterSlash?_cons {c : Char} (hc : isBreak c = false) (kind : SchemeKind)
    (cs : List Char) :
    afterSlash? kind (c :: cs) = if kind.isSlash c then some cs else none := by
  rw [afterSlash?, List.dropWhile_cons_of_neg (by simp [hc])]

theorem afterSlash?_slash (kind : SchemeKind) (cs : List Char) :
    afterSlash? kind ('/' :: cs) = some cs := rfl

variable {kind : SchemeKind} {name : List Char}

theorem goesOnWith_ofPath (h : IsPlainSegment name) (cs : List Char) (k : Nat) :
    GoesOnWith name (Trail.ofPath kind (cs ++ '/' :: name)).segments.reverse
      (Trail.ofPath kind (cs ++ List.replicate k '/')).segments.reverse := by
  obtain ⟨j, hj⟩ := Trail.exists_ofPath_append_slashes kind cs k
  refine ⟨(Trail.ahead kind cs).segments.reverse, j, ?_, ?_⟩
  · rw [Trail.ofPath_append_segment h, Trail.enter, List.reverse_cons]
  · rw [hj, List.reverse_append, List.reverse_replicate]

theorem segments_slash_cons (h : IsPlainSegment name) : segments kind ('/' :: name) = [name] := by
  rw [segments, afterSlash?_slash, Option.getD_some, Trail.ofPath_of_isPlainSegment h]
  rfl

theorem exists_segments_replicate (k : Nat) :
    ∃ j, segments kind (List.replicate k '/') = List.replicate j [] := by
  obtain ⟨j, hj⟩ : ∃ j, (Trail.ofPath kind ((afterSlash? kind (List.replicate k '/')).getD
      (List.replicate k '/'))).segments = List.replicate j [] := by
    cases k with
    | zero => exact Trail.exists_segments_ofPath_replicate kind 0
    | succ k =>
      rw [List.replicate_succ, afterSlash?_slash]
      exact Trail.exists_segments_ofPath_replicate kind k
  exact ⟨j, by rw [segments, hj, List.reverse_replicate]⟩

/-- **A path that goes on.** Text without breaks, with a name or with slashes behind it. -/
theorem goesOnWith_segments (h : IsPlainSegment name) {cs : List Char}
    (hcs : ∀ c ∈ cs, isBreak c = false) (k : Nat) :
    GoesOnWith name (segments kind (cs ++ '/' :: name))
      (segments kind (cs ++ List.replicate k '/')) := by
  cases cs with
  | nil =>
    obtain ⟨j, hj⟩ := exists_segments_replicate k
    exact ⟨[], j, segments_slash_cons h, hj⟩
  | cons c cs =>
    obtain ⟨hc, -⟩ := List.forall_mem_cons.mp hcs
    rw [segments, segments, List.cons_append, List.cons_append, afterSlash?_cons hc,
      afterSlash?_cons hc]
    cases kind.isSlash c with
    | true => exact goesOnWith_ofPath h cs k
    | false => exact goesOnWith_ofPath h (c :: cs) k

end LeagueStandings.Url
