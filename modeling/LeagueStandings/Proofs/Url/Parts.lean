import LeagueStandings.Proofs.Except
import LeagueStandings.Proofs.Text.Split
import LeagueStandings.Url.Parser

/-!
# The parts of a URL that is read

What a URL is read from, part by part. An authority is made of pieces of the text (`AuthorityOf`).
The URL of a file is read in two steps: first it is found where the path begins, and then the path
is followed (`fileParts?_eq`).
-/

namespace LeagueStandings.Url

variable {cs : List Char}

/-! ## The text -/

/-- The text of a URL before its query and its fragment. -/
def placeText (cs : List Char) : List Char := (Text.cutAt '?' (Text.cutAt '#' cs).1).1

/-- The query in the text of a URL. -/
def queryText (cs : List Char) : Option (List Char) := (Text.cutAt '?' (Text.cutAt '#' cs).1).2

/-- The fragment in the text of a URL. -/
def fragmentText (cs : List Char) : Option (List Char) := (Text.cutAt '#' cs).2

/-- The parts of the URL are read from the parts of the text. -/
structure ReadFrom (cs : List Char) (u : Url) : Prop where
  place : ∃ rest, cutScheme? (placeText cs) = some (u.scheme, rest) ∧
    parts? (.ofScheme u.scheme) rest = .ok (u.authority, u.path)
  query : u.query = (queryText cs).map fun query ↦
    Percent.encode (Percent.keptInQuery (SchemeKind.ofScheme u.scheme).isSpecial)
      (withoutBreaks query)
  fragment : u.fragment = (fragmentText cs).map fun fragment ↦
    Percent.encode Percent.keptInFragment (withoutBreaks fragment)

theorem ofText?_eq_ok_iff {text : String} {u : Url} :
    ofText? text = .ok u ↔ u.ReadFrom (trim text.toList) := by
  unfold ofText?
  dsimp only
  rw [← placeText, ← queryText, ← fragmentText]
  constructor
  · intro h
    split at h
    · cases h
    · next scheme rest hscheme =>
      obtain ⟨⟨authority, path⟩, hparts, h⟩ := bind_eq_ok_iff.mp h
      cases h
      exact ⟨⟨rest, hscheme, hparts⟩, rfl, rfl⟩
  · rintro ⟨⟨rest, hscheme, hparts⟩, hquery, hfragment⟩
    rw [hscheme]
    dsimp only
    rw [hparts, ok_bind, ← hquery, ← hfragment]
    rfl

/-- A text whose place can be read is a URL, whatever its query and its fragment are. -/
theorem exists_ofText?_of_place {text : String} {scheme rest : List Char}
    {parts : Option Authority × UrlPath}
    (hscheme : cutScheme? (placeText (trim text.toList)) = some (scheme, rest))
    (hparts : parts? (.ofScheme scheme) rest = .ok parts) :
    ∃ u, ofText? text = .ok u ∧ u.scheme = scheme ∧ (u.authority, u.path) = parts := by
  let u : Url := {
    scheme
    authority := parts.1
    path := parts.2
    query := (queryText (trim text.toList)).map fun query ↦
      Percent.encode (Percent.keptInQuery (SchemeKind.ofScheme scheme).isSpecial)
        (withoutBreaks query)
    fragment := (fragmentText (trim text.toList)).map fun fragment ↦
      Percent.encode Percent.keptInFragment (withoutBreaks fragment) }
  exact ⟨u, ofText?_eq_ok_iff.mpr ⟨⟨rest, hscheme, hparts⟩, rfl, rfl⟩, rfl, rfl⟩

theorem ofText?_eq_error {text : String} {scheme rest : List Char} {e : UrlError}
    (hscheme : cutScheme? (placeText (trim text.toList)) = some (scheme, rest))
    (hparts : parts? (.ofScheme scheme) rest = .error e) : ofText? text = .error e := by
  rw [placeText] at hscheme
  unfold ofText?
  dsimp only
  rw [hscheme]
  dsimp only
  rw [hparts, error_bind]

/-- A blank or a control character, which does not count at the ends of a URL. -/
def isMargin (c : Char) : Bool := decide (c.val ≤ 0x20)

theorem trim_eq (cs : List Char) : trim cs = (cs.dropWhile isMargin).rdropWhile isMargin := rfl

theorem trim_subset (cs : List Char) : trim cs ⊆ cs := by
  intro c hc
  have hfront := (List.dropWhile_sublist _).subset (List.mem_reverse.mp hc)
  exact (List.dropWhile_sublist _).subset (List.mem_reverse.mp hfront)

theorem query_eq_none_of_not_mem {text : String} {u : Url} (h : ofText? text = .ok u)
    (hquestion : '?' ∉ text.toList) : u.query = none := by
  obtain ⟨-, hquery, -⟩ := ofText?_eq_ok_iff.mp h
  rw [hquery, queryText, Text.cutAt_of_not_mem, Option.map_none]
  exact fun hmem ↦ hquestion (trim_subset _ (Text.cutAt_fst_subset _ _ hmem))

/-! ## Authorities -/

theorem cutUserInfo_fst_subset (cs : List Char) : (cutUserInfo cs).1.getD [] ⊆ cs := by
  unfold cutUserInfo
  split
  · intro c hc
    rw [Option.getD_some, List.mem_reverse] at hc
    exact List.mem_reverse.mp ((List.dropWhile_sublist _).subset ((List.drop_subset _ _) hc))
  · exact List.nil_subset cs

theorem cutUserInfo_snd_subset (cs : List Char) : (cutUserInfo cs).2 ⊆ cs := by
  unfold cutUserInfo
  split
  · intro c hc
    rw [List.mem_reverse] at hc
    exact List.mem_reverse.mp ((List.takeWhile_sublist _).subset hc)
  · exact List.Subset.refl cs

theorem cutHost_append (inBrackets : Bool) (cs : List Char) :
    (cutHost inBrackets cs).1 ++ (cutHost inBrackets cs).2 = cs := by
  induction cs generalizing inBrackets with
  | nil => rfl
  | cons c cs ih =>
    rw [cutHost]
    split
    · rfl
    · exact congrArg (c :: ·) (ih _)

theorem cutHost_fst_subset (inBrackets : Bool) (cs : List Char) :
    (cutHost inBrackets cs).1 ⊆ cs := by
  intro c hc
  rw [← cutHost_append inBrackets cs]
  exact List.mem_append_left _ hc

theorem cutHost_snd_subset (inBrackets : Bool) (cs : List Char) :
    (cutHost inBrackets cs).2 ⊆ cs := by
  intro c hc
  rw [← cutHost_append inBrackets cs]
  exact List.mem_append_right _ hc

theorem portNumber?_snd_subset {kind : SchemeKind} {portNumber : Option Nat} {rest : List Char}
    (h : portNumber? kind cs = .ok (portNumber, rest)) : rest ⊆ cs := by
  unfold portNumber? at h
  dsimp only at h
  split at h <;> cases h
  exact (List.dropWhile_sublist _).subset

/-- How the authority was read: everything in it is encoded from the text or is a host of it. -/
structure AuthorityOf (cs : List Char) (authority : Authority) (rest : List Char) : Prop where
  username : ∃ text ⊆ cs, authority.username = Percent.encode Percent.keptInUserInfo text
  password : ∃ text ⊆ cs, authority.password = Percent.encode Percent.keptInUserInfo text
  host : ∃ text ⊆ cs, specialHost? text = .ok authority.host ∨ otherHost? text = .ok authority.host
  rest : rest ⊆ cs

theorem authorityOf_of_authority? {kind : SchemeKind} {authority : Authority} {rest : List Char}
    (h : authority? kind cs = .ok (authority, rest)) : AuthorityOf cs authority rest := by
  have hhost := List.Subset.trans (cutHost_fst_subset false _) (cutUserInfo_snd_subset cs)
  have hrest := List.Subset.trans (List.drop_subset 1 _)
    (List.Subset.trans (cutHost_snd_subset false _) (cutUserInfo_snd_subset cs))
  have husername := List.Subset.trans (Text.cutAt_fst_subset ':' _) (cutUserInfo_fst_subset cs)
  have hpassword := List.Subset.trans (Text.cutAt_snd_subset ':' _) (cutUserInfo_fst_subset cs)
  unfold authority? at h
  dsimp only at h
  split at h
  · cases h
  · split at h
    all_goals
      obtain ⟨host, hok, h⟩ := bind_eq_ok_iff.mp h
      obtain ⟨⟨portNumber, rest⟩, hport, h⟩ := bind_eq_ok_iff.mp h
      cases h
      refine ⟨⟨_, husername, rfl⟩, ⟨_, hpassword, rfl⟩, ⟨_, hhost, ?_⟩,
        List.Subset.trans (portNumber?_snd_subset hport) hrest⟩
    · exact .inl hok
    · exact .inr hok

/-! ## Files -/

/-- The host of a file and the text of its path, given what follows two slashes. -/
def hostAndPath? (cs : List Char) : Except UrlError (Host × List Char) :=
  let hostText := withoutBreaks (cs.takeWhile (!SchemeKind.file.isSlash ·))
  if isDriveLetter hostText then .ok (.name [], cs)
  else (fileHost? hostText).map fun host ↦
    let path := cs.dropWhile (!SchemeKind.file.isSlash ·)
    (host, if host = .name [] then path else path.drop 1)

/-- The host of a file and the text of its path. -/
def filePlace? (cs : List Char) : Except UrlError (Host × List Char) :=
  match afterSlash? .file cs with
  | none => .ok (.name [], cs)
  | some behindOne =>
    match afterSlash? .file behindOne with
    | none => .ok (.name [], behindOne)
    | some behindTwo => hostAndPath? behindTwo

/-- The segments from the first one on that is not empty; a path has at least one. -/
def withoutLeadingEmpty (segments : List (List Char)) : List (List Char) :=
  match segments.dropWhile (· == []) with
  | [] => [[]]
  | kept => kept

theorem withoutLeadingEmpty_of_ne_nil {segments : List (List Char)}
    (h : segments.dropWhile (· == []) ≠ []) :
    withoutLeadingEmpty segments = segments.dropWhile (· == []) := by
  unfold withoutLeadingEmpty
  split
  · next hnil => exact absurd hnil h
  · rfl

theorem withoutLeadingEmpty_of_eq_nil {segments : List (List Char)}
    (h : segments.dropWhile (· == []) = []) : withoutLeadingEmpty segments = [[]] := by
  rw [withoutLeadingEmpty, h]

theorem eq_nil_or_mem_of_mem_withoutLeadingEmpty {segment : List Char}
    {segments : List (List Char)} (h : segment ∈ withoutLeadingEmpty segments) :
    segment = [] ∨ segment ∈ segments := by
  unfold withoutLeadingEmpty at h
  split at h
  · exact .inl (List.mem_singleton.mp h)
  · exact .inr ((List.dropWhile_sublist _).subset h)

/-- The parts of the URL of a file, given its host and the text of its path. -/
def partsOfFile (place : Host × List Char) : Option Authority × UrlPath :=
  let trail := Trail.ofPath .file place.2
  (some ⟨[], [], if trail.onDrive then .name [] else place.1, none⟩,
    .segments (withoutLeadingEmpty trail.segments.reverse))

theorem fileParts?_eq (cs : List Char) : fileParts? cs = (filePlace? cs).map partsOfFile := by
  unfold fileParts? filePlace? hostAndPath?
  cases afterSlash? .file cs with
  | none => rfl
  | some behindOne =>
    dsimp only
    cases afterSlash? .file behindOne with
    | none => rfl
    | some behindTwo =>
      dsimp only
      split
      · rfl
      · cases fileHost? _ <;> rfl

end LeagueStandings.Url
