import LeagueStandings.Proofs.Url.Domain
import LeagueStandings.Proofs.Url.Margins

/-!
# Blanks behind a URL

The text of a URL up to its path is compared with the same text and blanks or control characters
behind it. Breaks make no difference (`parts?_append_breaks`). Any other blank does if the path is
hierarchical (`leadsElsewhere_of_append`): it is one more character of the path, or it belongs to
the host. The web and files know no such host; elsewhere it is another one.
-/

namespace LeagueStandings.Url

variable {kind : SchemeKind} {cs more : List Char} {c : Char}

/-! ## Hosts -/

theorem otherHost?_cases {host : Host} (h : otherHost? cs = .ok host) :
    (∃ rest, cs = '[' :: rest ∧ bracketedHost? rest = .ok host) ∨
      host = .name (Percent.encode Percent.isPlain cs) := by
  unfold otherHost? at h
  split at h
  · exact .inl ⟨_, rfl, h⟩
  · split at h
    · cases h
    · exact .inr (Except.ok.inj h).symm

section

variable (h : IsMarginal more) (hne : more ≠ [])

include h hne

theorem bracketedHost?_append_margins (cs : List Char) :
    bracketedHost? (cs ++ more) = .error .invalidIpv6 := by
  have hlast : (cs ++ more).getLast? ≠ some ']' := by
    rw [List.getLast?_append_of_ne_nil _ hne, List.getLast?_eq_some_getLast hne]
    exact fun heq ↦ ne_of_isMargin (h _ (List.getLast_mem hne)) rfl (Option.some.inj heq)
  exact if_neg hlast

/-- No web address and no file has a host with a blank at its end. -/
theorem specialHost?_append_margins (cs : List Char) (host : Host) :
    specialHost? (cs ++ more) ≠ .ok host := by
  have hdomain : Domain.ofHost? (cs ++ more) = none := by
    obtain ⟨c, hc⟩ := List.exists_mem_of_ne_nil _ hne
    exact Domain.ofHost?_eq_none (of_decide_eq_true (h c hc)) (List.mem_append_right cs hc)
  intro hhost
  unfold specialHost? at hhost
  split at hhost
  · next rest heq =>
    cases cs with
    | nil =>
      rw [List.nil_append] at heq
      have hc : '[' ∈ more := heq ▸ List.mem_cons_self
      exact ne_of_isMargin (h _ hc) (by rfl) rfl
    | cons c cs =>
      have hrest : rest = cs ++ more := (List.cons.inj heq).2.symm
      rw [hrest, bracketedHost?_append_margins h hne] at hhost
      cases hhost
  · rw [hdomain] at hhost
    cases hhost

theorem otherHost?_append_margins (cs : List Char) {host host' : Host}
    (hhost : otherHost? (cs ++ more) = .ok host) (hhost' : otherHost? cs = .ok host') :
    host ≠ host' := by
  rcases otherHost?_cases hhost with ⟨rest, heq, hbrackets⟩ | rfl
  · cases cs with
    | nil =>
      rw [List.nil_append] at heq
      have hc : '[' ∈ more := heq ▸ List.mem_cons_self
      exact absurd rfl (ne_of_isMargin (h _ hc) (by rfl))
    | cons c cs =>
      rw [← (List.cons.inj heq).2] at hbrackets
      cases (bracketedHost?_append_margins h hne cs).symm.trans hbrackets
  · rcases otherHost?_cases hhost' with ⟨rest, rfl, -⟩ | rfl
    · cases (bracketedHost?_append_margins h hne rest).symm.trans hhost
    · rw [Percent.encode_append]
      intro heq
      have hpos := Nat.lt_of_lt_of_le (List.length_pos_iff.mpr hne)
        (Percent.length_le_length_encode Percent.isPlain more)
      rw [List.self_eq_append_right.mp (Host.name.inj heq).symm] at hpos
      exact Nat.lt_irrefl _ hpos

end

/-! ## Authorities -/

theorem cutUserInfo_append (h : '@' ∉ more) (cs : List Char) :
    cutUserInfo (cs ++ more) = ((cutUserInfo cs).1, (cutUserInfo cs).2 ++ more) := by
  have hreverse : ∀ c ∈ more.reverse, (c != '@') = true := by
    intro c hc
    exact bne_iff_ne.mpr fun heq ↦ h (List.mem_reverse.mp (heq ▸ hc))
  have hcontains : (cs ++ more).contains '@' = cs.contains '@' := by
    simp [h]
  unfold cutUserInfo
  rw [hcontains]
  split
  · dsimp only
    rw [List.reverse_append, List.dropWhile_append_of_pos hreverse,
      List.takeWhile_append_of_pos hreverse, List.reverse_append, List.reverse_reverse]
  · rfl

theorem cutHost_of_not_mem (h : ':' ∉ cs) (inBrackets : Bool) :
    cutHost inBrackets cs = (cs, []) := by
  induction cs generalizing inBrackets with
  | nil => rfl
  | cons c cs ih =>
    rw [List.mem_cons, not_or] at h
    rw [cutHost, if_neg fun hc ↦ h.1 hc.1.symm]
    dsimp only
    rw [ih h.2]

theorem cutHost_append_of_not_mem (h : ':' ∉ more) (inBrackets : Bool) (cs : List Char) :
    cutHost inBrackets (cs ++ more) =
      if (cutHost inBrackets cs).2 = [] then ((cutHost inBrackets cs).1 ++ more, [])
      else ((cutHost inBrackets cs).1, (cutHost inBrackets cs).2 ++ more) := by
  induction cs generalizing inBrackets with
  | nil =>
    rw [List.nil_append, cutHost_of_not_mem h]
    rfl
  | cons c cs ih =>
    rw [List.cons_append, cutHost, cutHost]
    split
    · rw [if_neg (List.cons_ne_nil _ _)]
      rfl
    · dsimp only
      generalize (if c = '[' then true else if c = ']' then false else inBrackets) = bracketed
      rw [ih]
      by_cases hrest : (cutHost bracketed cs).2 = []
      · rw [if_pos hrest, if_pos hrest]
        rfl
      · rw [if_neg hrest, if_neg hrest]

theorem portNumber?_append_margins (h : IsMarginal more) (hne : more ≠ [])
    {portNumber : Option Nat} {rest : List Char}
    (hport : portNumber? kind (cs ++ more) = .ok (portNumber, rest)) :
    ∃ front, rest = front ++ more ∧ front ≠ [] ∧ '\\' ∈ cs ∧
      portNumber? kind cs = .ok (portNumber, front) := by
  have hhead : ∀ c ∈ more.head?, c.isDigit = false := by
    intro c hc
    have hle : c.val ≤ 0x20 := of_decide_eq_true (h c (List.mem_of_mem_head? hc))
    refine Bool.eq_false_iff.mpr fun hdigit ↦ ?_
    have hge : 0x30 ≤ c.val := of_decide_eq_true (Bool.and_eq_true_iff.mp hdigit).1
    exact absurd (UInt32.le_trans hge hle) (by decide)
  unfold portNumber? at hport ⊢
  dsimp only at hport ⊢
  rw [Text.takeWhile_append hhead, Text.dropWhile_append hhead] at hport
  split at hport
  · cases hport
  · next hok =>
    cases hport
    rw [not_or, not_and_or, not_not, not_not] at hok
    have hslash := hok.2.resolve_left (List.append_ne_nil_of_right_ne_nil _ hne)
    -- What follows the digits begins with a backslash, so it cannot begin with a blank.
    cases hfront : cs.dropWhile Char.isDigit with
    | nil =>
      rw [hfront, List.nil_append] at hslash
      exact absurd rfl (ne_of_isMargin (h _ (List.mem_of_mem_head? hslash)) (by rfl))
    | cons c front =>
      rw [hfront, List.cons_append] at hslash
      obtain rfl : c = '\\' := Option.some.inj hslash
      refine ⟨_, rfl, List.cons_ne_nil _ _, ?_, if_neg ?_⟩
      · exact (List.dropWhile_sublist _).subset (hfront ▸ List.mem_cons_self)
      · exact not_or.mpr ⟨hok.1, fun hnot ↦ hnot.2 rfl⟩

/-- The text of the host in an authority. -/
private def hostText (cs : List Char) : List Char := (cutHost false (cutUserInfo cs).2).1

/-- What stands behind the host, with the colon. -/
private def behindHost (cs : List Char) : List Char := (cutHost false (cutUserInfo cs).2).2

/-- The user name and the password, encoded. -/
private def credentials (cs : List Char) : List Char × List Char :=
  let cut := Text.cutAt ':' ((cutUserInfo cs).1.getD [])
  (Percent.encode Percent.keptInUserInfo cut.1,
    Percent.encode Percent.keptInUserInfo (cut.2.getD []))

/-- A host is missing where there has to be one. -/
private def LacksHost (kind : SchemeKind) (cs : List Char) : Prop :=
  hostText cs = [] ∧ (kind.isSpecial = true ∨
    ((credentials cs).1 ≠ [] ∨ (credentials cs).2 ≠ []) ∨ behindHost cs ≠ [] ∨
      (cutUserInfo cs).1 = some [])

private instance (kind : SchemeKind) (cs : List Char) : Decidable (LacksHost kind cs) :=
  inferInstanceAs (Decidable (_ ∧ (_ ∨ (_ ∨ _) ∨ _ ∨ _)))

private theorem authority?_eq_ok_iff {authority : Authority} {rest : List Char} :
    authority? kind cs = .ok (authority, rest) ↔ ¬ LacksHost kind cs ∧
      ((if kind.isSpecial then specialHost? (hostText cs) else otherHost? (hostText cs)) =
        .ok authority.host ∧
      portNumber? kind ((behindHost cs).drop 1) = .ok (authority.portNumber, rest) ∧
      (authority.username, authority.password) = credentials cs) := by
  have hread : authority? kind cs = if LacksHost kind cs then .error .emptyHost else
      (if kind.isSpecial then specialHost? (hostText cs) else otherHost? (hostText cs)) >>=
        fun host ↦ portNumber? kind ((behindHost cs).drop 1) >>= fun port ↦
          .ok (⟨(credentials cs).1, (credentials cs).2, host, port.1⟩, port.2) := by
    unfold authority?
    dsimp only
    split
    · next h => exact (if_pos h).symm
    · next h =>
      refine Eq.trans ?_ (if_neg h).symm
      split <;> rfl
  rw [hread]
  split
  · next h => exact iff_of_false (fun heq ↦ nomatch heq) fun hnot ↦ hnot.1 h
  · next h =>
    rw [bind_eq_ok_iff]
    constructor
    · rintro ⟨host, hhost, hread⟩
      obtain ⟨⟨portNumber, behind⟩, hport, heq⟩ := bind_eq_ok_iff.mp hread
      cases heq
      exact ⟨h, hhost, hport, rfl⟩
    · rintro ⟨-, hhost, hport, hcredentials⟩
      refine ⟨_, hhost, bind_eq_ok_iff.mpr ⟨_, hport, ?_⟩⟩
      rw [← hcredentials]

/-- Blanks behind an authority belong to its host, or to a path behind its port number. -/
theorem authority?_append_margins (h : IsMarginal more) (hne : more ≠ []) {authority : Authority}
    {rest : List Char} (hok : authority? kind (cs ++ more) = .ok (authority, rest)) :
    (∃ front, rest = front ++ more ∧ front ≠ [] ∧ '\\' ∈ cs ∧
      authority? kind cs = .ok (authority, front)) ∨
    kind.isSpecial = false ∧ ∀ authority' rest', authority? kind cs = .ok (authority', rest') →
      authority.host ≠ authority'.host := by
  have hsign : '@' ∉ more := fun hmem ↦ ne_of_isMargin (h _ hmem) (by rfl) rfl
  have hcolon : ':' ∉ more := fun hmem ↦ ne_of_isMargin (h _ hmem) (by rfl) rfl
  have hcut : cutHost false (cutUserInfo (cs ++ more)).2 =
      if behindHost cs = [] then (hostText cs ++ more, [])
      else (hostText cs, behindHost cs ++ more) := by
    rw [cutUserInfo_append hsign]
    exact cutHost_append_of_not_mem hcolon false _
  have huser : (cutUserInfo (cs ++ more)).1 = (cutUserInfo cs).1 := by
    rw [cutUserInfo_append hsign]
  have hcredentials : credentials (cs ++ more) = credentials cs := by
    rw [credentials, credentials, huser]
  obtain ⟨hhas, hhost, hport, hnames⟩ := authority?_eq_ok_iff.mp hok
  by_cases hbehind : behindHost cs = []
  · have htext : hostText (cs ++ more) = hostText cs ++ more := by
      rw [hostText, hcut, if_pos hbehind]
    rw [htext] at hhost
    cases hkind : kind.isSpecial with
    | true =>
      rw [hkind, if_pos rfl] at hhost
      exact absurd hhost (specialHost?_append_margins h hne _ _)
    | false =>
      refine .inr ⟨rfl, fun authority' rest' hok' ↦ ?_⟩
      obtain ⟨-, hhost', -⟩ := authority?_eq_ok_iff.mp hok'
      rw [hkind, if_neg Bool.false_ne_true] at hhost hhost'
      exact otherHost?_append_margins h hne _ hhost hhost'
  · have htext : hostText (cs ++ more) = hostText cs := by
      rw [hostText, hcut, if_neg hbehind]
    have hrest : behindHost (cs ++ more) = behindHost cs ++ more := by
      rw [behindHost, hcut, if_neg hbehind]
    rw [hrest, List.drop_append_of_le_length (List.length_pos_iff.mpr hbehind)] at hport
    obtain ⟨front, hfront, hne, hmem, hport'⟩ := portNumber?_append_margins h hne hport
    have hsub : (behindHost cs).drop 1 ⊆ cs := List.Subset.trans (List.drop_subset _ _)
      (List.Subset.trans (cutHost_snd_subset _ _) (cutUserInfo_snd_subset cs))
    refine .inl ⟨front, hfront, hne, hsub hmem, authority?_eq_ok_iff.mpr ⟨?_, ?_, hport', ?_⟩⟩
    · rintro ⟨hnil, -⟩
      refine hhas ⟨htext.trans hnil, .inr (.inr (.inl ?_))⟩
      rw [hrest]
      exact List.append_ne_nil_of_left_ne_nil hbehind _
    · rw [← htext, hhost]
    · rw [hnames, hcredentials]

/-! ## Breaks -/

private theorem notSlash_of_isMarginal (h : IsMarginal more) (kind : SchemeKind) :
    ∀ c ∈ more, (!kind.isSlash c) = true := by
  intro c hc
  rw [isSlash_of_isMargin (h c hc), Bool.not_false]

theorem partsOfFile_append_breaks (h : withoutBreaks more = []) (host : Host) (path : List Char) :
    partsOfFile (host, path ++ more) = partsOfFile (host, path) := by
  rw [partsOfFile, partsOfFile]
  dsimp only
  rw [Trail.ofPath_append_breaks h]

theorem map_hostAndPath?_append_breaks (h : withoutBreaks more = []) (cs : List Char) :
    (hostAndPath? (cs ++ more)).map partsOfFile = (hostAndPath? cs).map partsOfFile := by
  have hmarginal := notSlash_of_isMarginal (isMarginal_of_breaks h) .file
  rw [hostAndPath?, hostAndPath?]
  dsimp only
  rcases Text.takeWhile_dropWhile_append hmarginal cs with ⟨hall, htake, hdrop⟩ | ⟨hne, htake, hdrop⟩
  · rw [htake, hdrop, withoutBreaks_append, h, List.append_nil, List.takeWhile_eq_self_iff.mpr hall,
      List.dropWhile_eq_nil_iff.mpr hall]
    split
    · exact congrArg Except.ok (partsOfFile_append_breaks h _ _)
    · rfl
  · rw [htake, hdrop]
    split
    · exact congrArg Except.ok (partsOfFile_append_breaks h _ _)
    · cases fileHost? _ with
      | error e => rfl
      | ok host =>
        refine congrArg Except.ok ?_
        dsimp only
        split
        · exact partsOfFile_append_breaks h _ _
        · rw [List.drop_append_of_le_length (List.length_pos_iff.mpr hne)]
          exact partsOfFile_append_breaks h _ _

/-- **Breaks behind a URL** make no difference. -/
theorem parts?_append_breaks (h : withoutBreaks more = []) (kind : SchemeKind) (cs : List Char) :
    parts? kind (cs ++ more) = parts? kind cs := by
  have htext : withoutBreaks (cs ++ more) = withoutBreaks cs := by
    rw [withoutBreaks_append, h, List.append_nil]
  have hmarginal := isMarginal_of_breaks h
  cases kind with
  | web n => rw [parts?, parts?, htext]
  | other => rw [parts?, parts?, htext]
  | file =>
    rw [parts?, parts?, fileParts?_eq, fileParts?_eq, filePlace?, filePlace?,
      afterSlash?_append_margins hmarginal]
    cases afterSlash? .file cs with
    | none => exact congrArg Except.ok (partsOfFile_append_breaks h _ _)
    | some one =>
      dsimp only [Option.map_some]
      rw [afterSlash?_append_margins hmarginal]
      cases afterSlash? .file one with
      | none => exact congrArg Except.ok (partsOfFile_append_breaks h _ _)
      | some two =>
        exact map_hostAndPath?_append_breaks h two

/-! ## Blanks that are not breaks -/

/-- The one path is hierarchical only if the other one is, and then it is longer, or it belongs to
another host. -/
def LeadsElsewhere (place other : Option Authority × UrlPath) : Prop :=
  ∀ longer, place.2 = .segments longer → ∃ shorter, other.2 = .segments shorter ∧
    (shorter.flatten.length < longer.flatten.length ∨
      ∃ a b, place.1 = some a ∧ other.1 = some b ∧ a.host ≠ b.host)

theorem leadsElsewhere_of_length {a b : Option Authority} {longer shorter : List (List Char)}
    (h : shorter.flatten.length < longer.flatten.length) :
    LeadsElsewhere (a, .segments longer) (b, .segments shorter) := by
  rintro segments ⟨⟩
  exact ⟨shorter, rfl, .inl h⟩

theorem parts?_other_ne_text {rest : List Char} (htext : withoutBreaks cs = '/' :: rest)
    (authority : Option Authority) (text : List Char) :
    parts? .other cs ≠ .ok (authority, .text text) := by
  intro hcs
  cases rest with
  | nil =>
    rw [parts?, htext] at hcs
    cases hcs
  | cons second rest =>
    by_cases hsecond : second = '/'
    · rw [parts?_other_of_authority (hsecond ▸ htext)] at hcs
      obtain ⟨read, -, heq⟩ := map_eq_ok_iff.mp hcs
      cases heq
    · cases (parts?_other_of_path hsecond htext).symm.trans hcs

section

variable (h : IsMarginal more) (hblank : withoutBreaks more ≠ [])

include h hblank

private theorem leadsElsewhere_segments {a b : Option Authority} (cs : List Char) :
    LeadsElsewhere (a, .segments (segments kind (cs ++ withoutBreaks more)))
      (b, .segments (segments kind cs)) := by
  refine leadsElsewhere_of_length (length_segments_lt h.withoutBreaks ?_ cs)
  rwa [withoutBreaks_withoutBreaks]

private theorem leadsElsewhere_web {n : Nat} {place other : Option Authority × UrlPath}
    (hmore : parts? (.web n) (cs ++ more) = .ok place) (hcs : parts? (.web n) cs = .ok other) :
    LeadsElsewhere place other := by
  have hhead : ∀ c ∈ (withoutBreaks more).head?, (SchemeKind.web n).isSlash c = false :=
    fun c hc ↦ isSlash_of_isMargin (h.withoutBreaks c (List.mem_of_mem_head? hc)) _
  unfold parts? at hmore hcs
  dsimp only at hmore hcs
  rw [withoutBreaks_append, Text.dropWhile_append hhead] at hmore
  generalize (withoutBreaks cs).dropWhile (SchemeKind.web n).isSlash = text at hmore hcs
  obtain ⟨read, hread, heq⟩ := bind_eq_ok_iff.mp hmore
  obtain ⟨read', hread', heq'⟩ := bind_eq_ok_iff.mp hcs
  cases heq
  cases heq'
  rcases Text.takeWhile_dropWhile_append (notSlash_of_isMarginal h.withoutBreaks (.web n)) text with
    ⟨hall, htake, -⟩ | ⟨-, -, hdrop⟩
  · rw [htake] at hread
    rcases authority?_append_margins h.withoutBreaks hblank hread with
      ⟨-, -, -, hmem, -⟩ | ⟨hkind, -⟩
    · cases hall _ hmem
    · cases hkind
  · rw [hdrop]
    exact leadsElsewhere_segments h hblank _

private theorem leadsElsewhere_other_of_authority {rest : List Char}
    {place other : Option Authority × UrlPath} (htext : withoutBreaks cs = '/' :: '/' :: rest)
    (hmore : parts? .other (cs ++ more) = .ok place) (hcs : parts? .other cs = .ok other) :
    LeadsElsewhere place other := by
  have hlonger : withoutBreaks (cs ++ more) = '/' :: '/' :: (rest ++ withoutBreaks more) := by
    rw [withoutBreaks_append, htext]
    rfl
  have hslash : ∀ c ∈ withoutBreaks more, (c != '/') = true :=
    fun c hc ↦ bne_iff_ne.mpr (ne_of_isMargin (h.withoutBreaks c hc) rfl)
  rw [parts?_other_of_authority hlonger] at hmore
  rw [parts?_other_of_authority htext] at hcs
  obtain ⟨⟨authority, afterPort⟩, hread, rfl⟩ := map_eq_ok_iff.mp hmore
  obtain ⟨⟨authority', afterPort'⟩, hread', rfl⟩ := map_eq_ok_iff.mp hcs
  -- The path goes on with the blanks, wherever it begins.
  have hpath : ∀ {a b : Option Authority} {path : List Char}, path ≠ [] → LeadsElsewhere
      (a, .segments (if path ++ withoutBreaks more = [] then []
        else segments .other (path ++ withoutBreaks more)))
      (b, .segments (if path = [] then [] else segments .other path)) := by
    intro a b path hne
    rw [if_neg hne, if_neg (List.append_ne_nil_of_left_ne_nil hne _)]
    exact leadsElsewhere_segments h hblank path
  rcases Text.takeWhile_dropWhile_append hslash rest with ⟨hall, htake, hdrop⟩ | ⟨hne, htake, hdrop⟩
  · rw [htake] at hread
    rw [List.takeWhile_eq_self_iff.mpr hall] at hread'
    rcases authority?_append_margins h.withoutBreaks hblank hread with
      ⟨front, rfl, hne, -, hfront⟩ | ⟨-, hhost⟩
    · cases hfront.symm.trans hread'
      rw [hdrop, List.dropWhile_eq_nil_iff.mpr hall, List.append_nil, List.append_nil]
      exact hpath hne
    · exact fun _ _ ↦ ⟨_, rfl, .inr ⟨_, _, rfl, rfl, hhost _ _ hread'⟩⟩
  · rw [htake] at hread
    cases hread.symm.trans hread'
    rw [hdrop, ← List.append_assoc]
    exact hpath (List.append_ne_nil_of_right_ne_nil _ hne)

private theorem leadsElsewhere_other {place other : Option Authority × UrlPath}
    (hmore : parts? .other (cs ++ more) = .ok place) (hcs : parts? .other cs = .ok other) :
    LeadsElsewhere place other := by
  obtain ⟨blank, blanks, hblanks, hmargin⟩ := h.exists_first hblank
  have hslash : blank ≠ '/' := ne_of_isMargin hmargin rfl
  have hlonger := withoutBreaks_append cs more
  cases htext : withoutBreaks cs with
  | nil =>
    rw [htext, hblanks] at hlonger
    rw [parts?_other_of_text hslash hlonger] at hmore
    cases hmore
    rintro longer ⟨⟩
  | cons first rest =>
    rw [htext] at hlonger
    by_cases hfirst : first = '/'
    · subst hfirst
      cases rest with
      | nil =>
        have hcs' : parts? .other cs = .ok (none, .segments (segments .other ['/'])) := by
          rw [parts?, htext]
          rfl
        have hmore' : parts? .other (cs ++ more) =
            .ok (none, .segments (segments .other (['/'] ++ withoutBreaks more))) := by
          rw [hblanks] at hlonger ⊢
          exact parts?_other_of_path hslash hlonger
        cases hmore'.symm.trans hmore
        cases hcs'.symm.trans hcs
        exact leadsElsewhere_segments h hblank _
      | cons second rest =>
        by_cases hsecond : second = '/'
        · exact leadsElsewhere_other_of_authority h hblank (hsecond ▸ htext) hmore hcs
        · cases (parts?_other_of_path hsecond hlonger).symm.trans hmore
          cases (parts?_other_of_path hsecond htext).symm.trans hcs
          exact leadsElsewhere_segments h hblank ('/' :: second :: rest)
    · rw [parts?_other_of_text hfirst hlonger] at hmore
      cases hmore
      rintro longer ⟨⟩

private theorem leadsElsewhere_partsOfFile (host host' : Host) (path : List Char) :
    LeadsElsewhere (partsOfFile (host, path ++ more)) (partsOfFile (host', path)) := by
  refine leadsElsewhere_of_length ?_
  rw [flatten_withoutLeadingEmpty, flatten_withoutLeadingEmpty,
    (List.reverse_perm _).flatten.length_eq, (List.reverse_perm _).flatten.length_eq]
  exact Trail.length_ofPath_lt h hblank path

private theorem leadsElsewhere_hostAndPath? {place other : Option Authority × UrlPath}
    (hmore : (hostAndPath? (cs ++ more)).map partsOfFile = .ok place)
    (hcs : (hostAndPath? cs).map partsOfFile = .ok other) : LeadsElsewhere place other := by
  rw [hostAndPath?] at hmore hcs
  dsimp only at hmore hcs
  rcases Text.takeWhile_dropWhile_append (notSlash_of_isMarginal h .file) cs with
    ⟨-, htake, -⟩ | ⟨hne, htake, hdrop⟩
  · obtain ⟨front, c, hfront, hc⟩ := h.exists_last hblank
    have hdrive : isDriveLetter (withoutBreaks cs ++ withoutBreaks more) = false := by
      rw [hfront, ← List.append_assoc]
      exact (Trail.plain_of_isMargin hc _).2.2
    rw [htake, withoutBreaks_append, hdrive, if_neg Bool.false_ne_true] at hmore
    obtain ⟨_, hread, -⟩ := map_eq_ok_iff.mp hmore
    obtain ⟨host, hhost, -⟩ := map_eq_ok_iff.mp hread
    rw [fileHost?, if_neg (List.append_ne_nil_of_right_ne_nil _ hblank)] at hhost
    obtain ⟨name, hname, -⟩ := bind_eq_ok_iff.mp hhost
    exact absurd hname (specialHost?_append_margins h.withoutBreaks hblank _ _)
  · rw [htake, hdrop] at hmore
    split at hmore
    · next hdrive =>
      rw [if_pos hdrive] at hcs
      cases hmore
      cases hcs
      exact leadsElsewhere_partsOfFile h hblank _ _ _
    · next hdrive =>
      rw [if_neg hdrive] at hcs
      obtain ⟨_, hread, rfl⟩ := map_eq_ok_iff.mp hmore
      obtain ⟨host, hhost, rfl⟩ := map_eq_ok_iff.mp hread
      obtain ⟨_, hread', rfl⟩ := map_eq_ok_iff.mp hcs
      obtain ⟨host', hhost', rfl⟩ := map_eq_ok_iff.mp hread'
      cases hhost.symm.trans hhost'
      split
      · exact leadsElsewhere_partsOfFile h hblank _ _ _
      · rw [List.drop_append_of_le_length (List.length_pos_iff.mpr hne)]
        exact leadsElsewhere_partsOfFile h hblank _ _ _

private theorem leadsElsewhere_file {place other : Option Authority × UrlPath}
    (hmore : parts? .file (cs ++ more) = .ok place) (hcs : parts? .file cs = .ok other) :
    LeadsElsewhere place other := by
  rw [parts?, fileParts?_eq, filePlace?] at hmore hcs
  rw [afterSlash?_append_margins h] at hmore
  cases hone : afterSlash? .file cs with
  | none =>
    rw [hone] at hmore hcs
    cases hmore
    cases hcs
    exact leadsElsewhere_partsOfFile h hblank _ _ _
  | some one =>
    rw [hone] at hmore hcs
    dsimp only [Option.map_some] at hmore hcs
    rw [afterSlash?_append_margins h] at hmore
    cases htwo : afterSlash? .file one with
    | none =>
      rw [htwo] at hmore hcs
      cases hmore
      cases hcs
      exact leadsElsewhere_partsOfFile h hblank _ _ _
    | some two =>
      rw [htwo] at hmore hcs
      dsimp only [Option.map_some] at hmore hcs
      exact leadsElsewhere_hostAndPath? h hblank hmore hcs

/-- **Blanks behind a URL** do make a difference, if they are not all breaks. -/
theorem leadsElsewhere_of_append {place other : Option Authority × UrlPath}
    (hmore : parts? kind (cs ++ more) = .ok place) (hcs : parts? kind cs = .ok other) :
    LeadsElsewhere place other := by
  cases kind with
  | web n => exact leadsElsewhere_web h hblank hmore hcs
  | file => exact leadsElsewhere_file h hblank hmore hcs
  | other => exact leadsElsewhere_other h hblank hmore hcs

/-- Mere text remains mere text without them. -/
theorem exists_text_of_append {authority : Option Authority} {longer : List Char}
    (hmore : parts? kind (cs ++ more) = .ok (authority, .text longer)) :
    ∃ shorter, parts? kind cs = .ok (authority, .text shorter) := by
  cases kind with
  | web n =>
    unfold parts? at hmore
    obtain ⟨read, -, heq⟩ := bind_eq_ok_iff.mp hmore
    cases heq
  | file =>
    rw [parts?, fileParts?_eq] at hmore
    obtain ⟨place, -, heq⟩ := map_eq_ok_iff.mp hmore
    cases heq
  | other =>
    have hlonger := withoutBreaks_append cs more
    cases htext : withoutBreaks cs with
    | nil =>
      obtain ⟨blank, blanks, hblanks, hmargin⟩ := h.exists_first hblank
      have hslash : blank ≠ '/' := ne_of_isMargin hmargin rfl
      rw [htext, hblanks] at hlonger
      cases (parts?_other_of_text hslash hlonger).symm.trans hmore
      exact ⟨[], by rw [parts?, htext]; rfl⟩
    | cons first rest =>
      rw [htext] at hlonger
      by_cases hfirst : first = '/'
      · subst hfirst
        exact absurd hmore (parts?_other_ne_text hlonger _ _)
      · cases (parts?_other_of_text hfirst hlonger).symm.trans hmore
        exact ⟨_, parts?_other_of_text hfirst htext⟩

end

end LeagueStandings.Url
