import LeagueStandings.Proofs.Url.Parts
import LeagueStandings.Proofs.Url.Percent

/-!
# Where the query of a URL is

The parts of a URL are written one behind the other, and whoever reads it finds the query by two
marks: the first `?` starts it, and the first `#` ends it. That this is the right place is a fact
about all the other parts, which must not hold a mark (`WellDelimited`). What is read in front of
the marks has none (`unmarked_of_parts?`), encoding puts in none, and there is none in a domain
whatever its text was mapped to (`Domain.unmarked_of_ofHost?`).
-/

namespace LeagueStandings

/-- The text has neither of the marks that start a query and a fragment. -/
def Unmarked (cs : List Char) : Prop := ∀ c ∈ cs, c ≠ '?' ∧ c ≠ '#'

instance (cs : List Char) : Decidable (Unmarked cs) :=
  List.decidableBAll (fun c ↦ c ≠ '?' ∧ c ≠ '#') cs

namespace Unmarked

variable {a b cs : List Char}

theorem nil : Unmarked [] := fun _ h ↦ nomatch h

@[simp] theorem cons_iff {c : Char} : Unmarked (c :: cs) ↔ (c ≠ '?' ∧ c ≠ '#') ∧ Unmarked cs :=
  List.forall_mem_cons

@[simp] theorem append_iff : Unmarked (a ++ b) ↔ Unmarked a ∧ Unmarked b :=
  List.forall_mem_append

theorem mono (h : Unmarked a) (hsub : b ⊆ a) : Unmarked b := fun c hc ↦ h c (hsub hc)

theorem flatMap {α : Type} {l : List α} {f : α → List Char} (h : ∀ x ∈ l, Unmarked (f x)) :
    Unmarked (l.flatMap f) := by
  intro c hc
  obtain ⟨x, hx, hmem⟩ := List.mem_flatMap.mp hc
  exact h x hx c hmem

theorem encode (h : Unmarked cs) (keep : Char → Bool) : Unmarked (Percent.encode keep cs) := by
  intro c hc
  constructor
  · rintro rfl
    exact (h _ (Percent.mem_of_mem_encode hc rfl (by decide)).1).1 rfl
  · rintro rfl
    exact (h _ (Percent.mem_of_mem_encode hc rfl (by decide)).1).2 rfl

theorem intercalate {sep : List Char} {l : List (List Char)} (hsep : Unmarked sep)
    (h : ∀ piece ∈ l, Unmarked piece) : Unmarked (sep.intercalate l) := by
  induction l with
  | nil => exact nil
  | cons piece l ih =>
    rw [List.forall_mem_cons] at h
    cases l with
    | nil => simpa using h.1
    | cons next l =>
      rw [List.intercalate_cons_cons, append_iff, append_iff]
      exact ⟨⟨h.1, hsep⟩, ih h.2⟩

theorem toDigits (base n : Nat) (hbase : 1 < base ∧ base ≤ 16) :
    Unmarked (Nat.toDigits base n) := by
  have hdigit : ∀ k < 16, Unmarked [Nat.digitChar k] := by decide
  induction n using Nat.strongRecOn with
  | ind n ih =>
    rw [Nat.toDigits_eq_if hbase.1]
    split
    · next hn => exact hdigit n (by omega)
    · refine append_iff.mpr ⟨ih _ (Nat.div_lt_self (by omega) hbase.1), hdigit _ ?_⟩
      have := Nat.mod_lt n (Nat.lt_trans Nat.zero_lt_one hbase.1)
      omega

end Unmarked

/-! ## Hosts -/

theorem Ipv4.unmarked_chars (address : Nat) : Unmarked (chars address) := by
  have hnumber : ∀ n : Int, Unmarked (Text.integerChars n) := by
    intro n
    refine Unmarked.append_iff.mpr ⟨?_, Unmarked.toDigits 10 _ (by decide)⟩
    split <;> simp [Unmarked]
  simp [chars, hnumber]

theorem Ipv6.unmarked_chars (groups : List Nat) : Unmarked (chars groups) := by
  have hgroups : ∀ groups, Unmarked (groupChars groups) := by
    intro groups
    refine Unmarked.intercalate (by simp [Unmarked]) fun piece hpiece ↦ ?_
    obtain ⟨n, -, rfl⟩ := List.mem_map.mp hpiece
    exact Unmarked.toDigits 16 n (by decide)
  unfold chars
  dsimp only
  split <;> simp [hgroups, Unmarked.nil]

private theorem eq_toNat_of_ofNat {n : Nat} {c : Char} (hc : c ≠ '\x00') (h : Char.ofNat n = c) :
    n = c.toNat := by
  subst h
  by_cases hn : n.isValidChar
  · have hvalid : Char.ofNat n = Char.ofNatAux n hn := dif_pos hn
    rw [hvalid]
    rfl
  · exact absurd (dif_neg hn) hc

theorem Domain.unmarked_of_ofHost? {host name : List Char} (h : ofHost? host = some name) :
    Unmarked name := by
  have hforbidden : isForbidden '?'.toNat = true ∧ isForbidden '#'.toNat = true := by decide
  obtain ⟨text, -, h⟩ := Option.bind_eq_some_iff.mp h
  obtain ⟨ascii, hascii, hname⟩ := Option.bind_eq_some_iff.mp h
  cases hname
  obtain ⟨labels, -, hascii⟩ := Option.bind_eq_some_iff.mp hascii
  obtain ⟨decoded, -, hascii⟩ := Option.bind_eq_some_iff.mp hascii
  have hallowed : ascii.any isForbidden = false := by
    dsimp only at hascii
    split at hascii
    · next hok =>
      cases hascii
      rw [Bool.and_eq_true, Bool.not_eq_true'] at hok
      exact hok.2
    · cases hascii
  intro c hc
  obtain ⟨n, hn, rfl⟩ := List.mem_map.mp hc
  have hnot := List.any_eq_false.mp hallowed n hn
  constructor
  · intro heq
    exact hnot (eq_toNat_of_ofNat (by decide) heq ▸ hforbidden.1)
  · intro heq
    exact hnot (eq_toNat_of_ofNat (by decide) heq ▸ hforbidden.2)

namespace Url

variable {host : Host} {cs : List Char}

private theorem unmarked_of_bracketedHost? (h : bracketedHost? cs = .ok host) :
    Unmarked host.chars := by
  unfold bracketedHost? at h
  split at h
  · split at h <;> cases h
    exact Ipv6.unmarked_chars _
  · cases h

theorem unmarked_of_specialHost? (h : specialHost? cs = .ok host) : Unmarked host.chars := by
  unfold specialHost? at h
  split at h
  · exact unmarked_of_bracketedHost? h
  · split at h
    · cases h
    · cases h
    · next name _ hname =>
      split at h
      · split at h <;> cases h
        exact Ipv4.unmarked_chars _
      · cases h
        exact Domain.unmarked_of_ofHost? hname

theorem unmarked_of_otherHost? (hcs : Unmarked cs) (h : otherHost? cs = .ok host) :
    Unmarked host.chars := by
  unfold otherHost? at h
  split at h
  · exact unmarked_of_bracketedHost? h
  · split at h <;> cases h
    exact hcs.encode _

/-! ## Authorities -/

theorem unmarked_of_authority? {kind : SchemeKind} {authority : Authority} {rest : List Char}
    (hcs : Unmarked cs) (h : authority? kind cs = .ok (authority, rest)) :
    Unmarked authority.chars ∧ Unmarked rest := by
  obtain ⟨⟨u, hu, husername⟩, ⟨p, hp, hpassword⟩, ⟨text, htext, hhost⟩, hrest⟩ :=
    authorityOf_of_authority? h
  have husername : Unmarked authority.username := husername ▸ (hcs.mono hu).encode _
  have hpassword : Unmarked authority.password := hpassword ▸ (hcs.mono hp).encode _
  have hhost : Unmarked authority.host.chars :=
    hhost.elim unmarked_of_specialHost? (unmarked_of_otherHost? (hcs.mono htext))
  refine ⟨?_, hcs.mono hrest⟩
  unfold Authority.chars
  simp only [Unmarked.append_iff]
  refine ⟨⟨⟨⟨husername, ?_⟩, ?_⟩, hhost⟩, ?_⟩
  · split <;> simp [hpassword, Unmarked.nil]
  · split <;> simp [Unmarked]
  · split
    · exact .nil
    · simp [Unmarked.toDigits 10]

/-! ## Paths -/

/-- The segments of the trail are free of marks. -/
def Trail.IsUnmarked (trail : Trail) : Prop := ∀ segment ∈ trail.segments, Unmarked segment

namespace Trail

variable {trail : Trail} {kind : SchemeKind} {segment : List Char} {isLast : Bool}

theorem IsUnmarked.descend (h : trail.IsUnmarked) (hsegment : Unmarked segment) :
    (trail.descend segment).IsUnmarked :=
  List.forall_mem_cons.mpr ⟨hsegment.encode _, h⟩

theorem IsUnmarked.rest (h : trail.IsUnmarked) : (trail.rest isLast).IsUnmarked := by
  unfold Trail.rest
  split
  · exact List.forall_mem_cons.mpr ⟨.nil, h⟩
  · exact h

theorem unmarked_of_cutDriveLetter? {drive below : List Char} (hsegment : Unmarked segment)
    (h : cutDriveLetter? segment = some (drive, below)) : Unmarked drive ∧ Unmarked below := by
  unfold cutDriveLetter? at h
  split at h
  · cases h
  · next letter rest hletter =>
    split at h
    · next mark rest' hrest =>
      dsimp only at h
      split at h <;> cases h
      have hsub : letter :: rest ⊆ segment := hletter ▸ (List.dropWhile_sublist _).subset
      have hsub' : ':' :: mark :: rest' ⊆ rest := hrest ▸ (List.dropWhile_sublist _).subset
      have hbelow : withoutBreaks rest' ⊆ segment := by
        intro c hc
        refine hsub (List.mem_cons_of_mem _ (hsub' ?_))
        exact List.mem_cons_of_mem _ (List.mem_cons_of_mem _ (List.mem_of_mem_filter hc))
      refine ⟨?_, hsegment.mono hbelow⟩
      simp [Unmarked.nil, hsegment letter (hsub List.mem_cons_self)]
    · cases h

theorem leave_subset (segments : List (List Char)) : leave segments ⊆ segments := by
  cases segments with
  | nil => exact List.Subset.refl _
  | cons segment before =>
    rw [leave]
    split
    · exact List.Subset.refl _
    · exact List.subset_cons_self segment before

/-- Following a segment adds nothing but the segment. -/
theorem IsUnmarked.follow (h : trail.IsUnmarked) (hsegment : Unmarked segment) :
    (trail.follow kind segment isLast).IsUnmarked := by
  unfold Trail.follow
  dsimp only
  split
  · next drive below hcut =>
    split at hcut
    · obtain ⟨hdrive, hbelow⟩ := unmarked_of_cutDriveLetter? hsegment hcut
      exact (h.descend hdrive).descend hbelow
    · cases hcut
  · have hplain : Unmarked (withoutBreaks segment) := hsegment.mono (List.filter_subset_self _)
    split
    · exact IsUnmarked.rest fun s hs ↦ h s (leave_subset _ hs)
    · split
      · exact h.rest
      · split
        · refine h.descend (Unmarked.append_iff.mpr ⟨?_, by simp [Unmarked]⟩)
          exact hplain.mono (List.take_subset 1 _)
        · exact h.descend hplain

theorem IsUnmarked.followAll (h : trail.IsUnmarked) {segments : List (List Char)}
    (hsegments : ∀ segment ∈ segments, Unmarked segment) :
    (trail.followAll kind segments).IsUnmarked := by
  induction segments generalizing trail with
  | nil => exact h
  | cons segment segments ih =>
    rw [List.forall_mem_cons] at hsegments
    exact ih (h.follow hsegments.1) hsegments.2

theorem isUnmarked_ofPath {cs : List Char} (h : Unmarked cs) (kind : SchemeKind) :
    (ofPath kind cs).IsUnmarked := by
  refine IsUnmarked.followAll (fun s hs ↦ absurd hs List.not_mem_nil) fun piece hpiece ↦ ?_
  exact h.mono fun c ↦ Text.mem_of_mem_splitAt hpiece

end Trail

/-- A path without marks. -/
def UrlPath.IsUnmarked : UrlPath → Prop
  | .segments segments => ∀ segment ∈ segments, Unmarked segment
  | .text chars => Unmarked chars

theorem afterSlash?_subset {kind : SchemeKind} {rest : List Char}
    (h : afterSlash? kind cs = some rest) : rest ⊆ cs := by
  unfold afterSlash? at h
  split at h
  · next c rest' hrest =>
    split at h <;> cases h
    have hsub : c :: rest ⊆ cs := hrest ▸ (List.dropWhile_sublist _).subset
    exact List.Subset.trans (List.subset_cons_self c rest) hsub
  · cases h

theorem unmarked_segments (h : Unmarked cs) (kind : SchemeKind) :
    ∀ segment ∈ segments kind cs, Unmarked segment := by
  intro segment hsegment
  refine Trail.isUnmarked_ofPath ?_ kind segment (List.mem_reverse.mp hsegment)
  cases hslash : afterSlash? kind cs with
  | none => exact h
  | some rest => exact h.mono (afterSlash?_subset hslash)

/-! ### Files -/

private theorem unmarked_of_fileHost? {host : Host} (h : fileHost? cs = .ok host) :
    Unmarked host.chars := by
  unfold fileHost? at h
  split at h
  · cases h
    exact .nil
  · obtain ⟨found, hfound, h⟩ := bind_eq_ok_iff.mp h
    cases h
    split
    · exact .nil
    · exact unmarked_of_specialHost? hfound

private theorem unmarked_of_hostAndPath? {host : Host} {path : List Char} (hcs : Unmarked cs)
    (h : hostAndPath? cs = .ok (host, path)) : Unmarked host.chars ∧ Unmarked path := by
  unfold hostAndPath? at h
  dsimp only at h
  split at h
  · cases h
    exact ⟨.nil, hcs⟩
  · obtain ⟨found, hfound, hplace⟩ := map_eq_ok_iff.mp h
    cases hplace
    have hpath := hcs.mono (List.dropWhile_sublist (!SchemeKind.file.isSlash ·)).subset
    refine ⟨unmarked_of_fileHost? hfound, ?_⟩
    split
    · exact hpath
    · exact hpath.mono (List.drop_subset 1 _)

private theorem unmarked_of_filePlace? {host : Host} {path : List Char} (hcs : Unmarked cs)
    (h : filePlace? cs = .ok (host, path)) : Unmarked host.chars ∧ Unmarked path := by
  unfold filePlace? at h
  split at h
  · cases h
    exact ⟨.nil, hcs⟩
  · next behindOne hone =>
    have hbehindOne := hcs.mono (afterSlash?_subset hone)
    split at h
    · cases h
      exact ⟨.nil, hbehindOne⟩
    · next behindTwo htwo =>
      exact unmarked_of_hostAndPath? (hbehindOne.mono (afterSlash?_subset htwo)) h

private theorem unmarked_of_fileParts? {authority : Option Authority} {path : UrlPath}
    (hcs : Unmarked cs) (h : fileParts? cs = .ok (authority, path)) :
    (∀ a, authority = some a → Unmarked a.chars) ∧ UrlPath.IsUnmarked path := by
  rw [fileParts?_eq] at h
  obtain ⟨⟨host, text⟩, hplace, hparts⟩ := map_eq_ok_iff.mp h
  cases hparts
  obtain ⟨hhost, htext⟩ := unmarked_of_filePlace? hcs hplace
  constructor
  · rintro a ⟨⟩
    simp only [Authority.chars, Unmarked.append_iff, if_true, and_self, Unmarked.nil, true_and,
      and_true]
    split
    · exact .nil
    · exact hhost
  · intro segment hsegment
    rcases eq_nil_or_mem_of_mem_withoutLeadingEmpty hsegment with rfl | hmem
    · exact .nil
    · exact Trail.isUnmarked_ofPath htext .file segment (List.mem_reverse.mp hmem)

/-! ### All URLs -/

theorem unmarked_of_parts? {kind : SchemeKind} {authority : Option Authority} {path : UrlPath}
    (hcs : Unmarked cs) (h : parts? kind cs = .ok (authority, path)) :
    (∀ a, authority = some a → Unmarked a.chars) ∧ UrlPath.IsUnmarked path := by
  have hplain : Unmarked (withoutBreaks cs) := hcs.mono (List.filter_subset_self _)
  cases kind with
  | file => exact unmarked_of_fileParts? hcs h
  | web n =>
    obtain ⟨⟨a, rest⟩, ha, h⟩ := bind_eq_ok_iff.mp h
    cases h
    have hbehind := hplain.mono (List.dropWhile_sublist (SchemeKind.web n).isSlash).subset
    refine ⟨?_, unmarked_segments (hbehind.mono (List.dropWhile_sublist _).subset) _⟩
    rintro _ ⟨⟩
    exact (unmarked_of_authority? (hbehind.mono (List.takeWhile_sublist _).subset) ha).1
  | other =>
    unfold parts? at h
    dsimp only at h
    split at h
    · next rest hrest =>
      rw [hrest, Unmarked.cons_iff, Unmarked.cons_iff] at hplain
      obtain ⟨⟨a, afterPort⟩, ha, h⟩ := bind_eq_ok_iff.mp h
      cases h
      obtain ⟨hchars, hafter⟩ :=
        unmarked_of_authority? (hplain.2.2.mono (List.takeWhile_sublist _).subset) ha
      refine ⟨?_, ?_⟩
      · rintro _ ⟨⟩
        exact hchars
      · intro segment hsegment
        split at hsegment
        · cases hsegment
        · refine unmarked_segments (Unmarked.append_iff.mpr ⟨hafter, ?_⟩) _ segment hsegment
          exact hplain.2.2.mono (List.dropWhile_sublist _).subset
    · next rest hrest =>
      cases h
      exact ⟨nofun, unmarked_segments (hrest ▸ hplain) _⟩
    · cases h
      exact ⟨nofun, hplain.encode _⟩

/-! ## The whole URL -/

/-- The marks in the text of the URL are the ones before its query and its fragment. -/
structure WellDelimited (u : Url) : Prop where
  scheme : Unmarked u.scheme
  authority : ∀ a, u.authority = some a → Unmarked a.chars
  path : UrlPath.IsUnmarked u.path
  query : ∀ query, u.query = some query → '#' ∉ query

theorem unmarked_placeText (cs : List Char) : Unmarked (placeText cs) := by
  intro c hc
  constructor
  · rintro rfl
    exact Text.not_mem_cutAt_fst _ _ hc
  · rintro rfl
    exact Text.not_mem_cutAt_fst _ _ (Text.cutAt_fst_subset _ _ hc)

private theorem eq_of_toLower {c sign : Char} (hsign : sign.val.toNat < 97)
    (h : c.toLower = sign) : c = sign := by
  unfold Char.toLower at h
  split at h
  · next hupper =>
    have hA : 'A'.val.toNat = 65 := rfl
    have hZ : 'Z'.val.toNat = 90 := rfl
    have hval := congrArg (·.val.toNat) h
    simp only [UInt32.toNat_add, ge_iff_le, UInt32.le_iff_toNat_le] at hval hupper
    have hshift : ('a'.val - 'A'.val).toNat = 32 := rfl
    omega
  · exact h

private theorem unmarked_of_cutScheme? {scheme rest : List Char} (hcs : Unmarked cs)
    (h : cutScheme? cs = some (scheme, rest)) : Unmarked scheme ∧ Unmarked rest := by
  unfold cutScheme? at h
  dsimp only at h
  split at h
  · next c scheme' rest' hscheme hrest =>
    split at h <;> cases h
    constructor
    · have hplain : Unmarked (c :: scheme') := by
        rw [← hscheme]
        exact (hcs.mono (Text.cutAt_fst_subset _ _)).mono (List.filter_subset_self _)
      intro d hd
      obtain ⟨d', hd', rfl⟩ := List.mem_map.mp hd
      constructor
      · intro heq
        exact (hplain d' hd').1 (eq_of_toLower (by decide) heq)
      · intro heq
        exact (hplain d' hd').2 (eq_of_toLower (by decide) heq)
    · have hsub := Text.cutAt_snd_subset ':' cs
      rw [hrest, Option.getD_some] at hsub
      exact hcs.mono hsub
  · cases h

theorem wellDelimited_of_ofText? {text : String} {u : Url} (h : ofText? text = .ok u) :
    u.WellDelimited := by
  obtain ⟨⟨rest, hscheme, hparts⟩, hquery, -⟩ := ofText?_eq_ok_iff.mp h
  obtain ⟨hschemeChars, hrest⟩ := unmarked_of_cutScheme? (unmarked_placeText _) hscheme
  obtain ⟨hauthority, hpath⟩ := unmarked_of_parts? hrest hparts
  refine ⟨hschemeChars, hauthority, hpath, fun query hsome hmem ↦ ?_⟩
  rw [hquery, Option.map_eq_some_iff] at hsome
  obtain ⟨text', htext, rfl⟩ := hsome
  obtain ⟨hmem, -⟩ := Percent.mem_of_mem_encode hmem rfl (by decide)
  have hsub := Text.cutAt_snd_subset '?' (Text.cutAt '#' (trim text.toList)).1
  rw [queryText] at htext
  rw [htext, Option.getD_some] at hsub
  exact Text.not_mem_cutAt_fst _ _ (hsub (List.mem_of_mem_filter hmem))

/-- What a URL has in front of its query and its fragment. -/
private def place (u : Url) : List Char :=
  u.scheme ++ ':' ::
    (match u.authority with
      | none => []
      | some authority => '/' :: '/' :: authority.chars) ++
    u.pathChars

private theorem unmarked_place {u : Url} (h : u.WellDelimited) : Unmarked u.place := by
  have hpath : Unmarked u.pathChars := by
    have hurlPath := h.path
    unfold pathChars
    split
    · next chars hchars =>
      rw [hchars] at hurlPath
      exact hurlPath
    · next segments hsegments =>
      rw [hsegments] at hurlPath
      have hslashed : Unmarked (segments.flatMap ('/' :: ·)) := by
        refine Unmarked.flatMap fun segment hsegment ↦ ?_
        simp [hurlPath segment hsegment]
      dsimp only
      split
      · simpa using hslashed
      · exact hslashed
  unfold place
  simp only [Unmarked.append_iff, Unmarked.cons_iff]
  refine ⟨⟨h.scheme, by decide, ?_⟩, hpath⟩
  split
  · exact .nil
  · next authority hauthority => simp [h.authority authority hauthority]

/-- **The query of a well-delimited URL** is what its text shows as the query. -/
theorem queryText_chars {u : Url} (h : u.WellDelimited) : queryText u.chars = u.query := by
  have hplace := unmarked_place h
  have hquestion : '?' ∉ u.place := fun hmem ↦ (hplace _ hmem).1 rfl
  have hhash : '#' ∉ u.place ++ (u.query.elim [] ('?' :: ·)) := by
    intro hmem
    rcases List.mem_append.mp hmem with hmem | hmem
    · exact (hplace _ hmem).2 rfl
    · cases hquery : u.query with
      | none => simp [hquery] at hmem
      | some query => simp [hquery, h.query query hquery] at hmem
  have hchars : u.chars = u.place ++ (u.query.elim [] ('?' :: ·)) ++
      u.fragment.elim [] ('#' :: ·) := by
    unfold chars place
    cases u.query <;> cases u.fragment <;> rfl
  have hfront : (Text.cutAt '#' u.chars).1 = u.place ++ (u.query.elim [] ('?' :: ·)) := by
    rw [hchars]
    cases u.fragment with
    | none => rw [Option.elim_none, List.append_nil, Text.cutAt_of_not_mem hhash]
    | some fragment => rw [Option.elim_some, Text.cutAt_append_cons hhash]
  rw [queryText, hfront]
  cases u.query with
  | none => rw [Option.elim_none, List.append_nil, Text.cutAt_of_not_mem hquestion]
  | some query => rw [Option.elim_some, Text.cutAt_append_cons hquestion]

end Url

end LeagueStandings
