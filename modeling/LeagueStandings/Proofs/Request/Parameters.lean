import LeagueStandings.Proofs.Request.Base
import LeagueStandings.Proofs.Url.Form

/-!
# The parameters of a request

Whatever the league, the season and the kind of season are, the service reads them from the query of
the URL as they are, in order and behind all other pairs (`pairs_of_url?`). So two requests below
one base URL that differ in any of them have different URLs.

What stands in front of them should be the pairs of the base URL. It is what the endpoint has as its
query. For a base URL without a query that is nothing, and for one with a fragment it is its query,
but otherwise the path of the standings has got into the last pair (`decode_query_endpoint_iff`).
-/

namespace LeagueStandings

/-- The pairs that are read from the text of a URL. -/
def Url.pairs (text : String) : List (List UInt8 × List UInt8) :=
  Form.decode ((queryText text.toList).getD [])

namespace StandingsRequest

variable {r : StandingsRequest} {season : Season} {u : Url}

/-- The pairs of a base URL; one that cannot be read has none. -/
def basePairs (base : String) : List (List UInt8 × List UInt8) :=
  match Url.ofText? base with
  | .ok u => Form.decode (u.query.getD [])
  | .error _ => []

theorem basePairs_of_ofText? {base : String} {b : Url} (h : Url.ofText? base = .ok b) :
    basePairs base = Form.decode (b.query.getD []) := by
  rw [basePairs, h]

/-- The pairs of the parameters of a request. -/
def ownPairs (r : StandingsRequest) (season : Season) : List (List UInt8 × List UInt8) :=
  (r.parameters season).map Form.pairBytes

theorem url?_eq_ok_iff : r.url? season = .ok u ↔ ∃ e, Url.ofText? (endpoint r.baseUrl) = .ok e ∧
    u = { e with query := some (Form.append (e.query.getD []) (r.parameters season)) } := by
  rw [url?, bind_eq_ok_iff]
  constructor
  · rintro ⟨e, he, hu⟩
    cases hu
    exact ⟨e, he, rfl⟩
  · rintro ⟨e, he, rfl⟩
    exact ⟨e, he, rfl⟩

theorem ownPairs_injective {r' : StandingsRequest} {season' : Season}
    (hbase : r.baseUrl = r'.baseUrl) (h : r.ownPairs season = r'.ownPairs season') :
    r = r' ∧ season = season' := by
  have hpairs : Function.Injective Form.pairBytes := by
    intro first second heq
    cases first
    cases second
    obtain ⟨hname, hvalue⟩ := Prod.mk.inj heq
    rw [Prod.mk.injEq]
    exact ⟨Utf8.encode_injective hname, Utf8.encode_injective hvalue⟩
  have hparameters := List.map_injective_iff.mpr hpairs h
  simp only [parameters, List.cons.injEq, Prod.mk.injEq, true_and, and_true] at hparameters
  obtain ⟨hleague, hseason, htype⟩ := hparameters
  cases r
  cases r'
  cases season
  cases season'
  simp only at hbase hleague hseason htype
  subst hbase hleague hseason htype
  exact ⟨rfl, rfl⟩

theorem pairs_toText {e : Url} (he : Url.ofText? (endpoint r.baseUrl) = .ok e)
    (hu : u = { e with query := some (Form.append (e.query.getD []) (r.parameters season)) }) :
    Url.pairs u.toText = Form.decode (e.query.getD []) ++ r.ownPairs season := by
  have hdelimited := Url.wellDelimited_of_ofText? he
  have hfront : '#' ∉ e.query.getD [] := by
    cases hquery : e.query with
    | none => exact List.not_mem_nil
    | some query => exact hdelimited.query query hquery
  have hwell : u.WellDelimited := by
    subst hu
    refine ⟨hdelimited.scheme, hdelimited.authority, hdelimited.path, ?_⟩
    rintro query ⟨⟩
    exact Form.not_mem_append hfront
  rw [Url.pairs, Url.toText, String.toList_ofList, Url.queryText_chars hwell, hu, Option.getD_some,
    Form.decode_append, ownPairs]

/-! ## Queries of base URLs -/

/-- The query of a URL as it is written, given its text. -/
private def written (special : Bool) (query : List Char) : List Char :=
  Percent.encode (Percent.keptInQuery special) (Url.withoutBreaks query)

private theorem written_append (special : Bool) (a b : List Char) :
    written special (a ++ b) = written special a ++ written special b := by
  simp [written, Url.withoutBreaks, Percent.encode]

private theorem keptInQuery_of_isMargin {c : Char} (h : Url.isMargin c = true) (special : Bool) :
    Percent.keptInQuery special c = false := by
  have hle : c.val ≤ 0x20 := of_decide_eq_true h
  rw [Bool.eq_false_iff]
  intro hkept
  simp only [Percent.keptInQuery, Percent.isPlain, Bool.and_eq_true, decide_eq_true_eq,
    Bool.not_eq_true', Bool.or_eq_false_iff, beq_eq_false_iff_ne] at hkept
  obtain ⟨⟨⟨hge, -⟩, hblank⟩, -⟩ := hkept
  exact hblank.1.1.1.1 (Char.ext (UInt32.le_antisymm hle hge))

/-- Blanks and control characters at the end of a query are read behind all the rest. -/
private theorem content_written_margin (margin : List Char)
    (h : ∀ c ∈ margin, Url.isMargin c = true) (special : Bool) (query : List Char) :
    Form.content (written special (query ++ margin)) =
      Form.content (written special query) ++ Form.decodeText (written special margin) := by
  have hplain : ∀ c ∈ Url.withoutBreaks margin, Url.isMargin c = true :=
    fun c hc ↦ h c (List.mem_of_mem_filter hc)
  have hhead : ∀ c ∈ (written special margin).head?, c = '/' ∨ c = '%' := by
    unfold written Percent.encode
    cases hbreaks : Url.withoutBreaks margin with
    | nil => exact fun c hc ↦ nomatch hc
    | cons first rest =>
      have hfirst := hplain first (hbreaks ▸ List.mem_cons_self)
      have hascii : first.toNat < 0x80 :=
        Nat.lt_of_le_of_lt (UInt32.le_iff_toNat_le.mp (of_decide_eq_true hfirst)) (by decide)
      intro c hc
      rw [List.flatMap_cons, List.head?_append,
        Percent.head?_encodeChar_of_not (keptInQuery_of_isMargin hfirst special) hascii] at hc
      cases hc
      exact .inr rfl
  rw [written_append]
  refine Form.content_append hhead (fun hc ↦ ?_) (fun hc ↦ ?_) _
  · exact absurd (hplain _ (Percent.mem_of_mem_encode hc rfl (by decide)).1) (by decide)
  · exact absurd (hplain _ (Percent.mem_of_mem_encode hc rfl (by decide)).1) (by decide)

private theorem written_slashes (special : Bool) (k : Nat) :
    written special (List.replicate k '/') = List.replicate k '/' := by
  induction k with
  | zero => rfl
  | succ k ih =>
    have hslash : written special ['/'] = ['/'] := by cases special <;> decide
    rw [List.replicate_succ, ← List.singleton_append, written_append, ih, hslash]

private theorem content_written_slashes (special : Bool) (query : List Char) (k : Nat) :
    Form.content (written special (query ++ List.replicate k '/')) =
      Form.content (written special query) ++ List.replicate k 0x2F := by
  have hdecode : Form.decodeText (List.replicate k '/') = List.replicate k 0x2F := by
    induction k with
    | zero => rfl
    | succ k ih => rw [List.replicate_succ, Form.decodeText_slash, ih, List.replicate_succ]
  rw [written_append, written_slashes, Form.content_append, hdecode]
  · intro c hc
    exact .inl (List.eq_of_mem_replicate (List.mem_of_mem_head? hc))
  · exact fun hc ↦ absurd (List.eq_of_mem_replicate hc) (by decide)
  · exact fun hc ↦ absurd (List.eq_of_mem_replicate hc) (by decide)

private theorem content_written_endpointPath (special : Bool) (query : List Char) :
    Form.content (written special (query ++ endpointPath)) =
      Form.content (written special query) ++ Form.decodeText endpointPath := by
  have hwritten : written special endpointPath = endpointPath := by
    cases special <;> decide
  have hhead : ∀ c ∈ endpointPath.head?, c = '/' ∨ c = '%' := by
    rintro c ⟨⟩
    exact .inl rfl
  rw [written_append, hwritten, Form.content_append hhead (by decide) (by decide)]

/-- The path of the standings is read from no query that does not take it up. -/
private theorem content_endpointPath_ne (special : Bool) (query : List Char) (k : Nat) :
    Form.content (written special (query ++ endpointPath)) ≠
      Form.content (written special ((query ++ List.replicate k '/').rdropWhile Url.isMargin)) := by
  rw [content_written_endpointPath]
  cases k with
  | zero =>
    -- The base URL loses the blanks at its end, which the endpoint keeps.
    have hquery : query.rdropWhile Url.isMargin ++ query.rtakeWhile Url.isMargin = query :=
      List.rdropWhile_append_rtakeWhile
    have hmargin := content_written_margin (query.rtakeWhile Url.isMargin)
      (fun _ ↦ List.mem_rtakeWhile_imp) special (query.rdropWhile Url.isMargin)
    rw [hquery] at hmargin
    intro heq
    rw [List.replicate_zero, List.append_nil, hmargin, List.append_assoc, List.append_right_eq_self,
      List.append_eq_nil_iff] at heq
    exact absurd heq.2 (by decide)
  | succ k =>
    have hslash : (query ++ List.replicate (k + 1) '/').rdropWhile Url.isMargin =
        query ++ List.replicate (k + 1) '/' := by
      rw [List.replicate_succ', ← List.append_assoc, List.rdropWhile_concat_neg _ _ _ (by decide)]
    rw [hslash, content_written_slashes]
    intro heq
    have hmem : 0x6C ∈ List.replicate (k + 1) (0x2F : UInt8) :=
      List.append_cancel_left heq ▸ (by decide : 0x6C ∈ Form.decodeText endpointPath)
    exact absurd (List.eq_of_mem_replicate hmem) (by decide)

/-- The pairs of the endpoint are those of the base URL exactly if the path of the standings gets
into no query. -/
theorem decode_query_endpoint_iff {e : Url} (he : Url.ofText? (endpoint r.baseUrl) = .ok e) :
    Form.decode (e.query.getD []) = basePairs r.baseUrl ↔
      ('?' ∈ r.baseUrl.toList → '#' ∈ r.baseUrl.toList) := by
  by_cases hquestion : '?' ∈ r.baseUrl.toList
  · have hmarked : ¬ Unmarked r.baseUrl.toList := fun hnone ↦ (hnone _ hquestion).1 rfl
    obtain ⟨b, hb, hscheme, -, -, hquery⟩ := exists_ofText?_base he hmarked
    rw [basePairs_of_ofText? hb]
    constructor
    · intro hdecode _
      by_contra hhash
      obtain ⟨query, k, hendpoint, hbase⟩ := exists_queryText_endpoint hquestion hhash
      obtain ⟨-, hequery, -⟩ := Url.ofText?_eq_ok_iff.mp he
      obtain ⟨-, hbquery, -⟩ := Url.ofText?_eq_ok_iff.mp hb
      rw [hendpoint, Option.map_some] at hequery
      rw [hbase, Option.map_some, ← hscheme] at hbquery
      rw [hequery, hbquery, Option.getD_some, Option.getD_some] at hdecode
      exact content_endpointPath_ne _ query k (congrArg (List.flatMap _) hdecode)
    · intro hhash
      rw [hquery (hhash hquestion)]
  · have hendpoint : '?' ∉ (endpoint r.baseUrl).toList := by
      rw [toList_endpoint, List.mem_append, not_or]
      exact ⟨fun hmem ↦ hquestion ((List.rdropWhile_prefix _ _).subset hmem), by decide⟩
    refine iff_of_true ?_ fun hmem ↦ absurd hmem hquestion
    rw [Url.query_eq_none_of_not_mem he hendpoint, basePairs]
    split
    · next b hb => rw [Url.query_eq_none_of_not_mem hb hquestion]
    · rfl

/-- **No parameter is injected.** The pairs of the URL end with the three of the request, as they
are; so no two requests below one base URL share their URL. The pairs in front of them are those of
the endpoint, which are those of the base URL exactly if it has no query or a fragment behind it. -/
theorem pairs_of_url? (h : r.url? season = .ok u) :
    (∃ e, Url.ofText? (endpoint r.baseUrl) = .ok e ∧
      Url.pairs u.toText = Form.decode (e.query.getD []) ++ r.ownPairs season) ∧
    (Url.pairs u.toText = basePairs r.baseUrl ++ r.ownPairs season ↔
      ('?' ∈ r.baseUrl.toList → '#' ∈ r.baseUrl.toList)) ∧
    ∀ r' season' u', r.baseUrl = r'.baseUrl → r'.url? season' = .ok u' →
      u.toText = u'.toText → r = r' ∧ season = season' := by
  obtain ⟨e, he, hu⟩ := url?_eq_ok_iff.mp h
  have hpairs := pairs_toText he hu
  refine ⟨⟨e, he, hpairs⟩, ?_, fun r' season' u' hbase h' htext ↦ ?_⟩
  · rw [hpairs, List.append_cancel_right_eq, decode_query_endpoint_iff he]
  · obtain ⟨e', he', hu'⟩ := url?_eq_ok_iff.mp h'
    cases (hbase ▸ he).symm.trans he'
    have hpairs' := pairs_toText he' hu'
    rw [← htext, hpairs] at hpairs'
    exact ownPairs_injective hbase (List.append_cancel_left hpairs')

/-- A request whose base URL has a query and a fragment, and whose parameters are full of signs. -/
def signs : StandingsRequest := ⟨"https://[::1]/api?lang=en#top", "0&0=#", "Regular Season+"⟩

/-- Its URL carries the parameters as they are, behind the pair of the base URL. -/
theorem pairs_of_url?_signs : ∃ u, signs.url? ⟨"20%25-26"⟩ = .ok u ∧
    Url.pairs u.toText = basePairs signs.baseUrl ++ signs.ownPairs ⟨"20%25-26"⟩ ∧
    basePairs signs.baseUrl = [(Utf8.encode "lang", Utf8.encode "en")] := by
  have hok : (signs.url? ⟨"20%25-26"⟩).isOk = true := by decide +kernel
  obtain ⟨u, hu⟩ := exists_of_isOk hok
  exact ⟨u, hu, (pairs_of_url? hu).2.1.mpr (by decide), by decide +kernel⟩

/-- A request whose base URL ends with a query. -/
def openQuery : StandingsRequest := ⟨"https://[::1]/api?lang=en", "00", "Regular Season"⟩

/-- **A pair that the base URL does not have.** The value of its only pair goes on with the path of
the standings. -/
theorem not_pairs_openQuery :
    basePairs openQuery.baseUrl = [(Utf8.encode "lang", Utf8.encode "en")] ∧
      (openQuery.url? ⟨"2025-26"⟩).toOption.map (fun u ↦ Url.pairs u.toText) =
        some ((Utf8.encode "lang", Utf8.encode "en/leaguestandingsv3") ::
          openQuery.ownPairs ⟨"2025-26"⟩) := by
  constructor <;> decide +kernel

end StandingsRequest

end LeagueStandings
