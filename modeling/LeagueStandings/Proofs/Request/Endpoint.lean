import LeagueStandings.Proofs.Request.Parameters
import LeagueStandings.Proofs.Url.Blanks

/-!
# Where a request goes

A request should go to the endpoint below the base URL (`ReachesEndpoint`): to the same host, and to
the path of the base URL with the name of the endpoint behind it. Since the name is put behind the
text of the base URL, what becomes of it depends on how that text ends.

* Behind the mark of a query or of a fragment the name does not get into the path, and the request
  goes to the path of the base URL itself.
* Blanks at the end of a base URL do not count, but they do once the name stands behind them. Then
  the request goes astray.
* Behind the path it is one segment more. The slashes at the end of the text do not count, but empty
  segments that are written in another way stay in between.
* Behind the scheme of a web address it is the name of the host, although there is none in the base
  URL, which is not a URL on its own. Other schemes need no host, but behind two slashes the name
  becomes one all the same.
-/

namespace LeagueStandings

namespace Url

/-- The host and the port number of a URL; without an authority the host is empty. -/
def hostAndPort (u : Url) : Host × Option Nat :=
  match u.authority with
  | none => (.name [], none)
  | some authority => (authority.host, authority.portNumber)

theorem IsHostless.hostAndPort_eq {u : Url} (h : IsHostless u.authority) :
    u.hostAndPort = (.name [], none) := by
  rcases h with h | h <;> rw [hostAndPort, h]

theorem exists_of_cutScheme? {cs scheme rest : List Char}
    (h : cutScheme? cs = some (scheme, rest)) : ∃ front, cs = front ++ ':' :: rest ∧
      ∀ more, cutScheme? (front ++ ':' :: more) = some (scheme, more) := by
  rcases Text.cutAt_cases ':' cs with ⟨-, hcut⟩ | ⟨front, behind, hfront, rfl, hcut⟩
  · unfold cutScheme? at h
    rw [hcut] at h
    dsimp only at h
    split at h <;> contradiction
  · have hcolon : ∀ more, cutScheme? (front ++ ':' :: more) =
        (cutScheme? (front ++ ':' :: behind)).map fun cut ↦ (cut.1, more) := by
      intro more
      unfold cutScheme?
      rw [Text.cutAt_append_cons hfront, Text.cutAt_append_cons hfront]
      dsimp only
      cases withoutBreaks front with
      | nil => rfl
      | cons c scheme =>
        dsimp only
        split <;> rfl
    have hbehind := hcolon behind
    rw [h] at hbehind
    cases hbehind
    exact ⟨front, rfl, fun more ↦ by rw [hcolon, h]; rfl⟩

end Url

namespace StandingsRequest

variable {r : StandingsRequest} {season : Season} {base : String} {scheme rest : List Char}
  {u : Url}

/-- The URL has the scheme, the host and the port number of the base URL, and the path of the base
URL, without slashes at its end, with the name of the endpoint behind it. -/
def ReachesEndpoint (base : String) (u : Url) : Prop :=
  ∃ b, Url.ofText? base = .ok b ∧ u.scheme = b.scheme ∧ u.hostAndPort = b.hostAndPort ∧
    ∀ segments, b.path = .segments segments →
      u.path = .segments (segments.rdropWhile (· == []) ++ [standingsEndpoint.toList])

theorem reachesEndpoint_iff {b : Url} (hb : Url.ofText? base = .ok b)
    (hscheme : u.scheme = b.scheme) (hhost : u.hostAndPort = b.hostAndPort) : ReachesEndpoint base u ↔
      ∀ segments, b.path = .segments segments →
        u.path = .segments (segments.rdropWhile (· == []) ++ [standingsEndpoint.toList]) := by
  constructor
  · rintro ⟨b', hb', -, -, hpath⟩
    cases hb.symm.trans hb'
    exact hpath
  · intro hpath
    exact ⟨b, hb, hscheme, hhost, hpath⟩

/-- At the end of the base URL there is a blank or a control character that is not a break. -/
def EndsWithBlank (base : String) : Prop :=
  ∃ c ∈ base.toList.rtakeWhile Url.isMargin, Url.isBreak c = false

instance (base : String) : Decidable (EndsWithBlank base) :=
  List.decidableBEx (Url.isBreak · = false) _

/-- The base URL ends with its path: it has no query and no fragment, and no blank at its end. -/
structure EndsWithPath (base : String) : Prop where
  unmarked : Unmarked base.toList
  noBlank : ¬ EndsWithBlank base

theorem EndsWithPath.withoutBreaks_eq_nil (h : EndsWithPath base) :
    Url.withoutBreaks (base.toList.rtakeWhile Url.isMargin) = [] := by
  refine List.filter_eq_nil_iff.mpr fun c hc hbreak ↦ h.noBlank ⟨c, hc, ?_⟩
  simpa using hbreak

/-! ## Paths with the endpoint -/

theorem isPlainSegment_endpoint : Url.IsPlainSegment standingsEndpoint.toList where
  noBreaks := by decide
  noDot := by decide
  noDoubleDot := by decide
  noDrive := by decide
  uncut := by decide
  kept := by decide
  noSlash := by decide

theorem rdropWhile_append_replicate (front : List (List Char)) (j : Nat) :
    (front ++ List.replicate j []).rdropWhile (· == []) = front.rdropWhile (· == []) := by
  induction j with
  | zero => rw [List.replicate_zero, List.append_nil]
  | succ j ih =>
    rw [List.replicate_succ', ← List.append_assoc, List.rdropWhile_concat_pos _ _ _ rfl, ih]

/-- A path that goes on with a name is the one it should be, unless there is an empty segment in
front of the name. -/
theorem eq_rdropWhile_append_iff {name : List Char} {longer shorter : List (List Char)}
    (h : Url.GoesOnWith name longer shorter) :
    longer = shorter.rdropWhile (· == []) ++ [name] ↔
      ∀ before, longer ≠ before ++ [[], name] := by
  obtain ⟨front, j, rfl, rfl⟩ := h
  have hbehind : ∀ before : List (List Char), before ++ [[], name] = (before ++ [[]]) ++ [name] :=
    fun before ↦ (List.append_assoc before [[]] [name]).symm
  simp only [rdropWhile_append_replicate, hbehind, List.append_cancel_right_eq, ne_eq]
  constructor
  · rintro hfront before rfl
    rw [List.rdropWhile_concat_pos _ _ _ rfl] at hfront
    have hlength := (List.rdropWhile_prefix (· == []) before).length_le
    rw [← hfront, List.length_append, List.length_singleton] at hlength
    exact Nat.not_succ_le_self _ hlength
  · intro hfront
    refine (List.rdropWhile_eq_self_iff.mpr fun hne hlast ↦ ?_).symm
    refine hfront front.dropLast ?_
    rw [← beq_iff_eq.mp hlast, List.dropLast_append_getLast hne]

theorem ne_rdropWhile_append (segments : List (List Char)) :
    segments ≠ segments.rdropWhile (· == []) ++ [standingsEndpoint.toList] := by
  intro h
  have hkept : (segments.rdropWhile (· == []) ++ [standingsEndpoint.toList]).rdropWhile (· == []) =
      segments.rdropWhile (· == []) ++ [standingsEndpoint.toList] :=
    List.rdropWhile_concat_neg _ _ _ (by decide)
  rw [← h] at hkept
  rw [hkept] at h
  exact absurd (List.self_eq_append_right.mp h) (List.cons_ne_nil _ _)

/-! ## Reading the base URL -/

theorem exists_cutScheme?_stem {e : Url} (he : Url.ofText? (endpoint base) = .ok e)
    (h : Unmarked base.toList) : ∃ rest, Url.cutScheme? (stem base) = some (e.scheme, rest) ∧
      Url.parts? (.ofScheme e.scheme) (rest ++ endpointPath) = .ok (e.authority, e.path) := by
  obtain ⟨⟨behind, hscheme, hparts⟩, -, -⟩ := Url.ofText?_eq_ok_iff.mp he
  have hunmarked : Unmarked (stem base ++ endpointPath) := by
    have hpath : Unmarked endpointPath := by decide
    refine Unmarked.append_iff.mpr ⟨h.mono ?_, hpath⟩
    exact List.Subset.trans (List.dropWhile_sublist _).subset (List.rdropWhile_prefix _ _).subset
  rw [trim_endpoint, Url.placeText_of_unmarked hunmarked] at hscheme
  obtain ⟨front, htext, hcut⟩ := Url.exists_of_cutScheme? hscheme
  -- The first colon is one of the stem, since the path that is put behind it has none.
  rcases List.append_eq_append_iff.mp htext with ⟨between, -, hpath⟩ | ⟨between, hstem, hbehind⟩
  · have hcolon : ':' ∈ endpointPath := by
      rw [hpath]
      exact List.mem_append_right _ List.mem_cons_self
    exact absurd hcolon (by decide)
  · cases between with
    | nil => cases hbehind
    | cons colon rest =>
      obtain ⟨rfl, rfl⟩ := List.cons.inj hbehind
      exact ⟨rest, by rw [hstem, hcut], hparts⟩

/-- The base URL has the same scheme. Behind it there are slashes more, or blanks less. -/
theorem exists_cutScheme?_base (h : Unmarked base.toList)
    (hstem : Url.cutScheme? (stem base) = some (scheme, rest)) :
    ∃ rest', Url.cutScheme? (Url.placeText (Url.trim base.toList)) = some (scheme, rest') ∧
      ((base.toList.rtakeWhile Url.isMargin = [] ∧ ∃ k, rest' = rest ++ List.replicate k '/') ∨
        rest = rest' ++ base.toList.rtakeWhile Url.isMargin) := by
  obtain ⟨front, hfront, hcut⟩ := Url.exists_of_cutScheme? hstem
  have hcolon : ':' ∈ stem base := by
    rw [hfront]
    exact List.mem_append_right _ List.mem_cons_self
  rw [Url.placeText_of_unmarked (h.mono (Url.trim_subset _))]
  rcases trim_base_cases hcolon (by decide) with ⟨hmargin, k, htrim⟩ | htrim
  · refine ⟨rest ++ List.replicate k '/', ?_, .inl ⟨hmargin, k, rfl⟩⟩
    rw [htrim, hfront, List.append_assoc, List.cons_append, hcut]
  · -- The first colon is not one of the blanks.
    have hmargin : ':' ∉ base.toList.rtakeWhile Url.isMargin := by
      intro hmem
      have := List.mem_rtakeWhile_imp hmem
      cases this
    rcases List.append_eq_append_iff.mp (hfront.symm.trans htrim) with
      ⟨between, hbase, hbehind⟩ | ⟨between, -, hbehind⟩
    · cases between with
      | nil =>
        rw [List.nil_append] at hbehind
        exact absurd (hbehind ▸ List.mem_cons_self) hmargin
      | cons colon rest' =>
        obtain ⟨rfl, rfl⟩ := List.cons.inj hbehind
        exact ⟨rest', by rw [hbase, hcut], .inr rfl⟩
    · refine absurd ?_ hmargin
      rw [hbehind]
      exact List.mem_append_right _ List.mem_cons_self

theorem exists_parts?_base {kind : SchemeKind} (h : EndsWithPath base)
    (hstem : Url.cutScheme? (stem base) = some (scheme, rest)) :
    ∃ rest' k, Url.cutScheme? (Url.placeText (Url.trim base.toList)) = some (scheme, rest') ∧
      Url.parts? kind rest' = Url.parts? kind (rest ++ List.replicate k '/') := by
  obtain ⟨rest', hbase, ⟨-, k, rfl⟩ | hrest⟩ := exists_cutScheme?_base h.unmarked hstem
  · exact ⟨_, k, hbase, rfl⟩
  · refine ⟨rest', 0, hbase, ?_⟩
    rw [List.replicate_zero, List.append_nil, hrest,
      Url.parts?_append_breaks h.withoutBreaks_eq_nil]

/-! ## Behind a mark, a path or a blank -/

theorem reachesEndpoint_iff_of_mark (h : Url.ofText? (endpoint base) = .ok u)
    (hmark : ¬ Unmarked base.toList) : ∃ b, Url.ofText? base = .ok b ∧ u.scheme = b.scheme ∧
      u.authority = b.authority ∧ u.path = b.path ∧
      (ReachesEndpoint base u ↔ ∃ text, u.path = .text text) := by
  obtain ⟨b, hb, hscheme, hauthority, hpath, -⟩ := exists_ofText?_base h hmark
  refine ⟨b, hb, hscheme, hauthority, hpath, ?_⟩
  rw [reachesEndpoint_iff hb hscheme (by rw [Url.hostAndPort, hauthority]; rfl), ← hpath]
  cases u.path with
  | text text => exact iff_of_true (fun _ h ↦ nomatch h) ⟨text, rfl⟩
  | segments segments =>
    refine iff_of_false (fun h ↦ ?_) fun ⟨_, h⟩ ↦ nomatch h
    exact ne_rdropWhile_append segments (UrlPath.segments.inj (h segments rfl))

theorem reachesEndpoint_iff_of_namesPlace (hbase : EndsWithPath base)
    (hstem : Url.cutScheme? (stem base) = some (u.scheme, rest))
    (hparts : Url.parts? (.ofScheme u.scheme) (rest ++ endpointPath) = .ok (u.authority, u.path))
    (hplace : Url.NamesPlace (.ofScheme u.scheme) rest) : ∃ b, Url.ofText? base = .ok b ∧
      u.scheme = b.scheme ∧ u.authority = b.authority ∧ (ReachesEndpoint base u ↔
        ∀ before, u.path ≠ .segments (before ++ [[], standingsEndpoint.toList])) := by
  obtain ⟨rest', k, hcut, hread⟩ := exists_parts?_base hbase hstem
  obtain ⟨shorter, hshorter, hpath⟩ :=
    Url.exists_parts?_slashes isPlainSegment_endpoint (by decide) hplace hparts k
  obtain ⟨b, hb, hscheme, hparts'⟩ := Url.exists_ofText?_of_place hcut (hread.trans hshorter)
  obtain ⟨hauthority, hbpath⟩ := Prod.mk.inj hparts'
  refine ⟨b, hb, hscheme.symm, hauthority.symm, ?_⟩
  rw [reachesEndpoint_iff hb hscheme.symm (by rw [Url.hostAndPort, ← hauthority]; rfl), hbpath]
  generalize u.path = longer at hpath
  cases hpath with
  | text longer shorter => exact iff_of_true (fun _ h ↦ nomatch h) (fun _ h ↦ nomatch h)
  | @segments longer shorter h =>
    simp only [UrlPath.segments.injEq, forall_eq', ne_eq]
    exact eq_rdropWhile_append_iff h

theorem length_flatten_of_goesOnWith {name : List Char} {shorter other : List (List Char)}
    (h : Url.GoesOnWith name (other.rdropWhile (· == []) ++ [name]) shorter) :
    shorter.flatten.length = other.flatten.length := by
  obtain ⟨front, j, heq, rfl⟩ := h
  obtain ⟨k, hk⟩ : ∃ k, other.rtakeWhile (· == []) = List.replicate k [] :=
    ⟨_, List.eq_replicate_of_mem fun segment hsegment ↦
      beq_iff_eq.mp (List.mem_rtakeWhile_imp (p := (· == [])) hsegment)⟩
  have hother := List.rdropWhile_append_rtakeWhile (p := (· == [])) (l := other)
  rw [hk, List.append_cancel_right heq] at hother
  rw [← hother, List.flatten_append, List.flatten_append, List.flatten_replicate_nil,
    List.flatten_replicate_nil]

/-- Behind a blank the request goes somewhere else: the blank gets into the path or the host. -/
theorem reachesEndpoint_iff_of_blank (hunmarked : Unmarked base.toList)
    (hblank : EndsWithBlank base) (hstem : Url.cutScheme? (stem base) = some (u.scheme, rest))
    (hparts : Url.parts? (.ofScheme u.scheme) (rest ++ endpointPath) = .ok (u.authority, u.path)) :
    ReachesEndpoint base u ↔ ∃ text, u.path = .text text := by
  obtain ⟨c, hc, hbreak⟩ := hblank
  obtain ⟨rest', hcut, ⟨hnil, -⟩ | hrest⟩ := exists_cutScheme?_base hunmarked hstem
  · rw [hnil] at hc
    cases hc
  have hmarginal : Url.IsMarginal (base.toList.rtakeWhile Url.isMargin) :=
    fun _ hmem ↦ List.mem_rtakeWhile_imp hmem
  generalize base.toList.rtakeWhile Url.isMargin = more at hc hrest hmarginal
  subst hrest
  have hkept : Url.withoutBreaks more ≠ [] :=
    List.ne_nil_of_mem (Url.mem_withoutBreaks_iff.mpr ⟨hc, hbreak⟩)
  have hplace : Url.NamesPlace (.ofScheme u.scheme) (rest' ++ more) :=
    ⟨c, List.mem_append_right _ hc, hbreak, Url.isSlash_of_isMargin (hmarginal c hc) _⟩
  obtain ⟨shorter, hshorter, hpath⟩ :=
    Url.exists_parts?_slashes isPlainSegment_endpoint (by decide) hplace hparts 0
  rw [List.replicate_zero, List.append_nil] at hshorter
  constructor
  · rintro ⟨b, hb, -, hhost, hreached⟩
    obtain ⟨⟨behind, hcut', hread⟩, -, -⟩ := Url.ofText?_eq_ok_iff.mp hb
    obtain ⟨hscheme, rfl⟩ := Prod.mk.inj (Option.some.inj (hcut.symm.trans hcut'))
    rw [← hscheme] at hread
    have helsewhere := Url.leadsElsewhere_of_append hmarginal hkept hshorter hread
    dsimp only [Url.LeadsElsewhere] at helsewhere
    generalize hlonger : u.path = longer at hpath
    cases hpath with
    | text longer shorter => exact ⟨longer, rfl⟩
    | @segments longer shorter hgoesOn =>
      exfalso
      obtain ⟨segments, hsegments, hlength | ⟨a, b', ha, hb', hne⟩⟩ := helsewhere _ rfl
      · cases hlonger.symm.trans (hreached _ hsegments)
        rw [length_flatten_of_goesOnWith hgoesOn] at hlength
        exact Nat.lt_irrefl _ hlength
      · rw [Url.hostAndPort, Url.hostAndPort, ha, hb'] at hhost
        exact hne (Prod.mk.inj hhost).1
  · rintro ⟨text, htext⟩
    rw [htext] at hpath
    cases hpath with
    | text longer shorter =>
      obtain ⟨text', hbase⟩ := Url.exists_text_of_append hmarginal hkept hshorter
      obtain ⟨b, hb, hscheme, hread⟩ := Url.exists_ofText?_of_place hcut hbase
      obtain ⟨hauthority, hbpath⟩ := Prod.mk.inj hread
      rw [reachesEndpoint_iff hb hscheme.symm (by rw [Url.hostAndPort, ← hauthority]; rfl), hbpath]
      exact fun _ heq ↦ nomatch heq

/-! ## Behind a bare scheme -/

theorem exists_hostless_base (hbase : EndsWithPath base)
    (hstem : Url.cutScheme? (stem base) = some (scheme, rest))
    (hkind : ∀ n, SchemeKind.ofScheme scheme ≠ .web n)
    (hplace : ¬ Url.NamesPlace (.ofScheme scheme) rest) : ∃ b, Url.ofText? base = .ok b ∧
      b.scheme = scheme ∧ b.hostAndPort = (.name [], none) ∧
      ((∃ j, b.path = .segments (List.replicate j [])) ∨ SchemeKind.ofScheme scheme = .other ∧
        Url.withoutBreaks rest = [] ∧ b.path = .text []) := by
  obtain ⟨rest', k, hcut, hread⟩ := exists_parts?_base hbase hstem
  obtain ⟨authority, path, hparts, hhost, hempty⟩ := Url.exists_parts?_of_not_namesPlace hkind
    (Url.not_namesPlace_append_replicate hplace k)
  obtain ⟨b, hb, hscheme, hparts'⟩ := Url.exists_ofText?_of_place hcut (hread.trans hparts)
  obtain ⟨rfl, rfl⟩ := Prod.mk.inj hparts'
  refine ⟨b, hb, hscheme, hhost.hostAndPort_eq, hempty.imp_right ?_⟩
  rintro ⟨hkind, hnil, htext⟩
  rw [Url.withoutBreaks_append] at hnil
  exact ⟨hkind, (List.append_eq_nil_iff.mp hnil).1, htext⟩

theorem reachesEndpoint_iff_of_hostless {b : Url} {j : Nat} (hb : Url.ofText? base = .ok b)
    (hscheme : u.scheme = b.scheme) (hhost : b.hostAndPort = (.name [], none))
    (hpath : b.path = .segments (List.replicate j [])) : ReachesEndpoint base u ↔
      u.hostAndPort = (.name [], none) ∧ u.path = .segments [standingsEndpoint.toList] := by
  have hempty : (List.replicate j ([] : List Char)).rdropWhile (· == []) = [] :=
    rdropWhile_append_replicate [] j
  constructor
  · rintro ⟨b', hb', -, hhost', hpath'⟩
    cases hb.symm.trans hb'
    refine ⟨hhost'.trans hhost, (hpath' _ hpath).trans ?_⟩
    rw [hempty, List.nil_append]
  · rintro ⟨hhost', hpath'⟩
    refine ⟨b, hb, hscheme, hhost'.trans hhost.symm, fun segments hsegments ↦ ?_⟩
    rw [hpath, UrlPath.segments.injEq] at hsegments
    rw [← hsegments, hempty, hpath', List.nil_append]

theorem hostAndPath?_endpoint {place : Host × List Char}
    (h : Url.hostAndPath? standingsEndpoint.toList = .ok place) : place.2 = [] := by
  have hdrive : Url.isDriveLetter (Url.withoutBreaks
      (standingsEndpoint.toList.takeWhile (!SchemeKind.file.isSlash ·))) = false := by decide
  have hpath : standingsEndpoint.toList.dropWhile (!SchemeKind.file.isSlash ·) = [] := rfl
  rw [Url.hostAndPath?, hpath] at h
  dsimp only at h
  rw [hdrive, if_neg Bool.false_ne_true] at h
  obtain ⟨host, -, rfl⟩ := map_eq_ok_iff.mp h
  exact ite_self []

/-- Behind one slash or backslash of a file the name of the endpoint is that of the host. -/
theorem reachesEndpoint_iff_of_file (hbase : EndsWithPath base)
    (hstem : Url.cutScheme? (stem base) = some (u.scheme, rest))
    (hparts : Url.parts? (.ofScheme u.scheme) (rest ++ endpointPath) = .ok (u.authority, u.path))
    (hplace : ¬ Url.NamesPlace (.ofScheme u.scheme) rest)
    (hkind : SchemeKind.ofScheme u.scheme = .file) :
    ReachesEndpoint base u ↔ (Url.withoutBreaks rest).length ≠ 1 := by
  have hweb : ∀ n, SchemeKind.ofScheme u.scheme ≠ .web n := by
    rintro n hn
    cases hkind.symm.trans hn
  obtain ⟨b, hb, hscheme, hhost, ⟨j, hj⟩ | ⟨hother, -, -⟩⟩ :=
    exists_hostless_base hbase hstem hweb hplace
  · rw [reachesEndpoint_iff_of_hostless hb hscheme.symm hhost hj]
    rw [hkind] at hparts hplace
    rw [endpointPath, Url.parts?_file_append_name isPlainSegment_endpoint (by decide) (by decide)
      hplace] at hparts
    split at hparts
    · next hlength =>
      obtain ⟨place, hread, hparts⟩ := map_eq_ok_iff.mp hparts
      have hnil : u.path = .segments [[]] := by
        rw [← (Prod.mk.inj hparts).2, hostAndPath?_endpoint hread]
        rfl
      refine iff_of_false ?_ fun hne ↦ hne hlength
      rintro ⟨-, hpath⟩
      cases hnil.symm.trans hpath
    · next hlength =>
      obtain ⟨hauthority, hpath⟩ := Prod.mk.inj (Except.ok.inj hparts)
      refine iff_of_true ⟨?_, hpath.symm⟩ hlength
      rw [Url.hostAndPort, ← hauthority]
  · cases hkind.symm.trans hother

/-- Behind the scheme alone, or behind its two slashes, the endpoint is reached. -/
theorem reachesEndpoint_iff_of_other (hbase : EndsWithPath base)
    (hstem : Url.cutScheme? (stem base) = some (u.scheme, rest))
    (hparts : Url.parts? (.ofScheme u.scheme) (rest ++ endpointPath) = .ok (u.authority, u.path))
    (hplace : ¬ Url.NamesPlace (.ofScheme u.scheme) rest)
    (hkind : SchemeKind.ofScheme u.scheme = .other) : ReachesEndpoint base u ↔
      (Url.withoutBreaks rest).length = 0 ∨ (Url.withoutBreaks rest).length = 2 := by
  have hweb : ∀ n, SchemeKind.ofScheme u.scheme ≠ .web n := by
    rintro n hn
    cases hkind.symm.trans hn
  have hzero : Url.parts? .other endpointPath =
      .ok (none, .segments [standingsEndpoint.toList]) := by decide +kernel
  have hone : Url.parts? .other ('/' :: endpointPath) = .ok
      (some ⟨[], [], .name standingsEndpoint.toList, none⟩, .segments []) := by decide +kernel
  obtain ⟨b, hb, hscheme, hhost, hpath⟩ := exists_hostless_base hbase hstem hweb hplace
  rw [hkind] at hparts hplace
  rw [endpointPath, Url.parts?_other_append_name isPlainSegment_endpoint hplace] at hparts
  rcases hpath with ⟨j, hj⟩ | ⟨-, hnil, htext⟩
  · rw [reachesEndpoint_iff_of_hostless hb hscheme.symm hhost hj]
    rcases hlength : (Url.withoutBreaks rest).length with _ | _ | k
    · rw [hlength] at hparts
      obtain ⟨hauthority, hpath⟩ := Prod.mk.inj (Except.ok.inj (hparts.symm.trans hzero))
      exact iff_of_true ⟨by rw [Url.hostAndPort, hauthority], hpath⟩ (.inl rfl)
    · rw [hlength] at hparts
      obtain ⟨-, hpath⟩ := Prod.mk.inj (Except.ok.inj (hparts.symm.trans hone))
      rw [hpath]
      refine iff_of_false ?_ (by decide)
      rintro ⟨-, hnil⟩
      cases hnil
    · rw [hlength] at hparts
      obtain ⟨hauthority, hpath⟩ := Prod.mk.inj (Except.ok.inj hparts)
      have hhost' : u.hostAndPort = (.name [], none) := by rw [Url.hostAndPort, ← hauthority]
      rw [← hpath, UrlPath.segments.injEq, List.append_left_eq_self]
      simp [hhost']
  · rw [hnil] at hparts ⊢
    obtain ⟨hauthority, -⟩ := Prod.mk.inj (Except.ok.inj (hparts.symm.trans hzero))
    refine iff_of_true ⟨b, hb, hscheme.symm, ?_, ?_⟩ (.inl rfl)
    · rw [hhost, Url.hostAndPort, hauthority]
    · rw [htext]
      rintro segments ⟨⟩

theorem parts?_web_endpointPath (n : Nat) : Url.parts? (.web n) endpointPath =
    (Url.specialHost? standingsEndpoint.toList).map fun host ↦
      (some ⟨[], [], host, none⟩, .segments [[]]) := by
  have huser : Url.cutUserInfo standingsEndpoint.toList = (none, standingsEndpoint.toList) := by
    decide
  have hhost : Url.cutHost false standingsEndpoint.toList = (standingsEndpoint.toList, []) := by
    decide
  have hauthority : Url.authority? (.web n) standingsEndpoint.toList =
      (Url.specialHost? standingsEndpoint.toList).map fun host ↦ (⟨[], [], host, none⟩, []) := by
    unfold Url.authority?
    rw [huser]
    dsimp only
    rw [hhost]
    dsimp only
    cases Url.specialHost? standingsEndpoint.toList <;> rfl
  have htext : (Url.withoutBreaks endpointPath).dropWhile (SchemeKind.web n).isSlash =
      standingsEndpoint.toList := rfl
  have hname : standingsEndpoint.toList.takeWhile (!(SchemeKind.web n).isSlash ·) =
      standingsEndpoint.toList := rfl
  have hpath : standingsEndpoint.toList.dropWhile (!(SchemeKind.web n).isSlash ·) = [] := rfl
  unfold Url.parts?
  dsimp only
  rw [htext, hname, hpath, hauthority]
  cases Url.specialHost? standingsEndpoint.toList <;> rfl

/-- Behind a bare web scheme the request goes to a host that the base URL does not have. -/
theorem hostless_of_web {n : Nat} (hbase : EndsWithPath base)
    (hstem : Url.cutScheme? (stem base) = some (u.scheme, rest))
    (hparts : Url.parts? (.ofScheme u.scheme) (rest ++ endpointPath) = .ok (u.authority, u.path))
    (hplace : ¬ Url.NamesPlace (.ofScheme u.scheme) rest)
    (hkind : SchemeKind.ofScheme u.scheme = .web n) :
    Url.ofText? base = .error .emptyHost ∧ ∃ host,
      Url.specialHost? standingsEndpoint.toList = .ok host ∧
      u.authority = some ⟨[], [], host, none⟩ := by
  rw [hkind] at hparts hplace
  constructor
  · obtain ⟨rest', k, hcut, hread⟩ := exists_parts?_base hbase hstem
    refine Url.ofText?_eq_error hcut (hread.trans ?_)
    rw [hkind, Url.parts?_web_of_not_namesPlace (Url.not_namesPlace_append_replicate hplace k)]
  · rw [Url.parts?_web_append hplace, parts?_web_endpointPath] at hparts
    obtain ⟨host, hhost, hread⟩ := map_eq_ok_iff.mp hparts
    exact ⟨host, hhost, (Prod.mk.inj hread).1.symm⟩

/-- **Where the request goes.** Behind a query or a fragment it goes to the path of the base URL.
Behind a blank it goes astray, unless the path is mere text. Behind a path it reaches the endpoint,
unless there is an empty segment in front of the endpoint. Behind a bare scheme it depends on how
many slashes there are; on the web such a base URL should be refused, and the name of the endpoint
becomes that of the host. -/
theorem reachesEndpoint_of_url? (h : r.url? season = .ok u) :
    (¬ Unmarked r.baseUrl.toList → ∃ b, Url.ofText? r.baseUrl = .ok b ∧ u.scheme = b.scheme ∧
      u.authority = b.authority ∧ u.path = b.path ∧
      (ReachesEndpoint r.baseUrl u ↔ ∃ text, u.path = .text text)) ∧
    (Unmarked r.baseUrl.toList → EndsWithBlank r.baseUrl →
      (ReachesEndpoint r.baseUrl u ↔ ∃ text, u.path = .text text)) ∧
    (EndsWithPath r.baseUrl → ∃ rest, Url.cutScheme? (stem r.baseUrl) = some (u.scheme, rest) ∧
      (Url.NamesPlace (.ofScheme u.scheme) rest → ∃ b, Url.ofText? r.baseUrl = .ok b ∧
        u.scheme = b.scheme ∧ u.authority = b.authority ∧ (ReachesEndpoint r.baseUrl u ↔
          ∀ before, u.path ≠ .segments (before ++ [[], standingsEndpoint.toList]))) ∧
      (¬ Url.NamesPlace (.ofScheme u.scheme) rest →
        (SchemeKind.ofScheme u.scheme = .file →
          (ReachesEndpoint r.baseUrl u ↔ (Url.withoutBreaks rest).length ≠ 1)) ∧
        (SchemeKind.ofScheme u.scheme = .other → (ReachesEndpoint r.baseUrl u ↔
          (Url.withoutBreaks rest).length = 0 ∨ (Url.withoutBreaks rest).length = 2)) ∧
        ∀ n, SchemeKind.ofScheme u.scheme = .web n →
          Url.ofText? r.baseUrl = .error .emptyHost ∧ ∃ host,
            Url.specialHost? standingsEndpoint.toList = .ok host ∧
            u.authority = some ⟨[], [], host, none⟩)) := by
  obtain ⟨e, he, rfl⟩ := url?_eq_ok_iff.mp h
  refine ⟨reachesEndpoint_iff_of_mark (u := e) he, fun hunmarked hblank ↦ ?_, fun hbase ↦ ?_⟩
  · obtain ⟨rest, hstem, hparts⟩ := exists_cutScheme?_stem he hunmarked
    exact reachesEndpoint_iff_of_blank (u := e) hunmarked hblank hstem hparts
  · obtain ⟨rest, hstem, hparts⟩ := exists_cutScheme?_stem he hbase.unmarked
    refine ⟨rest, hstem, reachesEndpoint_iff_of_namesPlace (u := e) hbase hstem hparts,
      fun hplace ↦ ⟨?_, ?_, fun n ↦ ?_⟩⟩
    · exact reachesEndpoint_iff_of_file (u := e) hbase hstem hparts hplace
    · exact reachesEndpoint_iff_of_other (u := e) hbase hstem hparts hplace
    · exact hostless_of_web hbase hstem hparts hplace

-- A blank at the end of the base URL gets into the path.
example : ((StandingsRequest.mk "https://[::1]/stats " "00" "Regular Season").url?
    ⟨"2025-26"⟩).toOption.map Url.path =
      some (.segments ["stats%20".toList, "leaguestandingsv3".toList]) := by decide +kernel

/-- A request below a path with slashes at its end. -/
def belowPath : StandingsRequest := ⟨"https://[::1]/stats//", "00", "Regular Season"⟩

/-- It reaches the endpoint. -/
theorem reachesEndpoint_belowPath : ∃ u, belowPath.url? ⟨"2025-26"⟩ = .ok u ∧
    ReachesEndpoint belowPath.baseUrl u ∧
    u.path = .segments ["stats".toList, "leaguestandingsv3".toList] := by
  have hpath : (belowPath.url? ⟨"2025-26"⟩).toOption.map Url.path =
      some (.segments ["stats".toList, "leaguestandingsv3".toList]) := by decide +kernel
  have hok : (belowPath.url? ⟨"2025-26"⟩).isOk = true := by decide +kernel
  obtain ⟨u, hu⟩ := exists_of_isOk hok
  rw [hu] at hpath
  replace hpath : u.path = .segments ["stats".toList, "leaguestandingsv3".toList] :=
    Option.some.inj hpath
  have hbase : EndsWithPath belowPath.baseUrl := ⟨by decide, by decide +kernel⟩
  have hscheme : (belowPath.url? ⟨"2025-26"⟩).toOption.map Url.scheme = some "https".toList := by
    decide +kernel
  rw [hu] at hscheme
  replace hscheme : u.scheme = "https".toList := Option.some.inj hscheme
  obtain ⟨rest, hstem, hreaches, -⟩ := (reachesEndpoint_of_url? hu).2.2 hbase
  have hrest : (Url.cutScheme? (stem belowPath.baseUrl)).map Prod.snd =
      some "//[::1]/stats".toList := by decide +kernel
  rw [hstem] at hrest
  have hplace : Url.NamesPlace (.ofScheme u.scheme) rest := by
    rw [show rest = "//[::1]/stats".toList from Option.some.inj hrest, hscheme]
    exact ⟨'[', by decide, by decide, by decide⟩
  obtain ⟨b, -, -, -, hiff⟩ := hreaches hplace
  refine ⟨u, hu, hiff.mpr fun before hbefore ↦ ?_, hpath⟩
  rw [hpath, UrlPath.segments.injEq] at hbefore
  cases before with
  | nil => exact absurd (List.cons.inj hbefore).1 (by decide)
  | cons first before => simpa using congrArg List.length hbefore

/-- **A request that does not reach the endpoint.** The name of the endpoint is in the query, and
the request goes to the path of the base URL. -/
theorem not_reachesEndpoint_openQuery : ∃ u, openQuery.url? ⟨"2025-26"⟩ = .ok u ∧
    u.path = .segments ["api".toList] ∧ ¬ ReachesEndpoint openQuery.baseUrl u := by
  have hpath : (openQuery.url? ⟨"2025-26"⟩).toOption.map Url.path =
      some (.segments ["api".toList]) := by decide +kernel
  have hok : (openQuery.url? ⟨"2025-26"⟩).isOk = true := by decide +kernel
  obtain ⟨u, hu⟩ := exists_of_isOk hok
  rw [hu] at hpath
  replace hpath : u.path = .segments ["api".toList] := Option.some.inj hpath
  have hmark : ¬ Unmarked openQuery.baseUrl.toList := fun h ↦ (h '?' (by decide)).1 rfl
  obtain ⟨e, he, rfl⟩ := url?_eq_ok_iff.mp hu
  obtain ⟨b, -, -, -, -, hiff⟩ := reachesEndpoint_iff_of_mark he hmark
  refine ⟨_, hu, hpath, fun hreaches ↦ ?_⟩
  obtain ⟨text, htext⟩ := hiff.mp hreaches
  cases hpath.symm.trans htext

end StandingsRequest

end LeagueStandings
