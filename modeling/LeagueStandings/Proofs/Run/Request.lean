import LeagueStandings.Proofs.Run.Effect
import LeagueStandings.Proofs.Standings.Outcomes
import LeagueStandings.Proofs.StatsReply

/-!
# What a standings run makes of a reply

A standings run over the statistics service asks it for one URL, once, and what comes of that
decides how the run ends. Two questions are kept apart here.

The first is what a run asks for (`Run.Requests`). It is answered along the run, step by step, and
it does not matter how a step ends: only the transport notes what it is asked for, and whatever
comes after it asks for nothing.

The second is what an exchange is worth. Either no table can be had from it
(`Exchange.Unavailable`), or it has a first table (`Exchange.Offers`), and then this table is all
that the rest of the run gets to see.
-/

namespace LeagueStandings

/-! ## Requests -/

namespace Run

variable {α β : Type} {run : Run α} {urls : List String}

/-- The run asks the service for these URLs in this order, whether it succeeds or fails. -/
def Requests (run : Run α) (urls : List String) : Prop :=
  ∀ world, (run.exec world).2.requested = world.requested ++ urls

theorem requests_pure (a : α) : (pure a : Run α).Requests [] :=
  fun world ↦ (List.append_nil world.requested).symm

theorem requests_ofExcept (result : Except Failure α) : (ofExcept result).Requests [] := by
  intro world
  rw [exec_ofExcept, List.append_nil]

theorem requests_report (level : Level) (message : String) :
    (report level message).Requests [] :=
  fun world ↦ (List.append_nil world.requested).symm

theorem requests_answering (exchange : Exchange) (url : Url) :
    (Transport.answering exchange url).Requests [url.toText] := fun _ ↦ rfl

/-- A run that asks first and goes on without asking. -/
theorem Requests.bind (h : run.Requests urls) {next : α → Run β}
    (hnext : ∀ a, (next a).Requests []) : (run >>= next).Requests urls := by
  intro world
  rw [exec_bind, ← h world]
  rcases run.exec world with ⟨failure | a, after⟩
  · rfl
  · exact (hnext a after).trans (List.append_nil _)

theorem Requests.after_report (h : run.Requests urls) (level : Level) (message : String) :
    (report level message >>= fun _ ↦ run).Requests urls := fun world ↦ by
  rw [exec_bind, exec_report]
  exact h _

theorem requests_forM (l : List α) {next : α → Run PUnit} (h : ∀ a, (next a).Requests []) :
    (l.forM next).Requests [] := by
  induction l with
  | nil => exact requests_pure ()
  | cons a l ih => exact (h a).bind fun _ ↦ ih

theorem requests_save (path kind : String) (toJson : List α → Json) (records : List α) :
    (save path toJson kind records).Requests [] := by
  have hwrite : (writeJson path (toJson records)).Requests [] := by
    intro world
    rw [exec_writeJson, List.append_nil]
  exact hwrite.bind fun _ ↦ requests_report _ _

theorem requests_firstTable (tables : List Table) : (firstTable tables).Requests [] := by
  cases tables with
  | nil => exact requests_ofExcept (.error _)
  | cons table tables => exact requests_pure table

theorem requests_normalizeTable (normalizer : Normalizer) (table : Table) :
    (normalizeTable normalizer table).Requests [] := by
  have h : (do
      let rows ← ofExcept (normalizer.normalize table)
      info ("Normalized standings table '" ++ table.name ++ "'")
      return rows : Run (List StandingsRow)).Requests [] :=
    (requests_ofExcept _).bind fun rows ↦ (requests_report _ _).bind fun _ ↦ requests_pure rows
  rw [normalizeTable]
  dsimp only
  split
  · exact h
  · exact (requests_report _ _).bind fun _ ↦ h

private theorem service_tables (settings : SourceSettings) (transport : Transport)
    (season : Season) : (StatsSource.service settings transport).tables season =
      StatsSource.serviceTables settings.request transport season := rfl

theorem requests_service_of_ok {settings : SourceSettings} {season : Season} {url : Url}
    (h : settings.request.url? season = .ok url) (exchange : Exchange) :
    ((StatsSource.service settings (.answering exchange)).tables season).Requests
      [url.toText] := by
  rw [service_tables, StatsSource.serviceTables, h]
  exact ((requests_answering exchange url).bind fun _ ↦ requests_ofExcept _).after_report _ _

theorem requests_service_of_error {settings : SourceSettings} {season : Season} {e : UrlError}
    (h : settings.request.url? season = .error e) (transport : Transport) :
    ((StatsSource.service settings transport).tables season).Requests [] := by
  rw [service_tables, StatsSource.serviceTables, h]
  exact requests_ofExcept (.error _)

/-- **A standings run** asks for what its source asks for and nothing else. -/
theorem requests_fetchStandings {source : StatsSource} {season : Season}
    (h : (source.tables season).Requests urls) (normalizer : Normalizer)
    (output : OutputSettings) : (fetchStandings source normalizer output season).Requests urls := by
  refine Requests.after_report ?_ _ _
  refine h.bind fun tables ↦ (requests_firstTable tables).bind fun table ↦ ?_
  refine (requests_report _ _).bind fun _ ↦ ?_
  refine (requests_normalizeTable normalizer table).bind fun rows ↦ ?_
  refine (requests_report _ _).bind fun _ ↦ ?_
  refine (requests_forM _ fun _ ↦ requests_report _ _).bind fun _ ↦ ?_
  exact (requests_save _ _ _ rows).bind fun _ ↦ requests_pure rows

end Run

/-! ## Exchanges -/

namespace Exchange

/-- No table can be had from the exchange: it got no reply, or one that is no success, or one that
cannot be decoded or holds no table. -/
inductive Unavailable : Exchange → Prop
  | failed (words : String) : Unavailable (.failed words)
  | refused {status : Nat} (body : List UInt8) : status < 200 ∨ 299 < status →
      Unavailable (.reply status body)
  | malformed (status : Nat) {body : List UInt8} : StatsReply.tables? body = none →
      Unavailable (.reply status body)
  | empty (status : Nat) {body : List UInt8} : StatsReply.tables? body = some [] →
      Unavailable (.reply status body)

/-- The exchange brought a reply with some tables, of which this is the first. -/
def Offers (exchange : Exchange) (table : Table) : Prop :=
  ∃ status body rest, exchange = .reply status body ∧ 200 ≤ status ∧ status ≤ 299 ∧
    StatsReply.tables? body = some (table :: rest)

variable {exchange : Exchange} {table : Table}

/-- An exchange is of no use or offers a table. -/
theorem unavailable_or_offers (exchange : Exchange) :
    exchange.Unavailable ∨ ∃ table, exchange.Offers table := by
  cases exchange with
  | failed words => exact .inl (.failed words)
  | reply status body =>
    by_cases hstatus : status < 200 ∨ 299 < status
    · exact .inl (.refused body hstatus)
    cases htables : StatsReply.tables? body with
    | none => exact .inl (.malformed status htables)
    | some tables =>
      cases tables with
      | nil => exact .inl (.empty status htables)
      | cons table rest =>
        exact .inr ⟨table, status, body, rest, rfl, by omega, by omega, htables⟩

theorem Unavailable.exists_fault (h : exchange.Unavailable) :
    ∃ fault, StatsSource.tablesOfExchange exchange = .error (.sourceUnavailable fault) := by
  cases h with
  | failed words => exact ⟨_, rfl⟩
  | refused body hstatus =>
    rw [StatsSource.tablesOfExchange, if_neg (by omega)]
    exact ⟨_, rfl⟩
  | malformed status hbody =>
    rw [StatsSource.tablesOfExchange, hbody]
    split
    · exact ⟨_, rfl⟩
    · exact ⟨_, rfl⟩
  | empty status hbody =>
    rw [StatsSource.tablesOfExchange, hbody]
    split
    · exact ⟨_, rfl⟩
    · exact ⟨_, rfl⟩

theorem Offers.exists_tables (h : exchange.Offers table) :
    ∃ rest, StatsSource.tablesOfExchange exchange = .ok (table :: rest) := by
  obtain ⟨status, body, rest, rfl, hlow, hhigh, hbody⟩ := h
  refine ⟨rest, ?_⟩
  rw [StatsSource.tablesOfExchange, if_pos (by omega), hbody]

end Exchange

/-! ## Replies and runs -/

open Run

namespace SteadySource

/-- The statistics service where every request has the same outcome. -/
def answering (settings : SourceSettings) (exchange : Exchange) : SteadySource :=
  .service settings (.answering exchange) (fun _ ↦ .ok exchange) fun _ _ ↦ rfl

variable {settings : SourceSettings} {exchange : Exchange} {normalizer : Normalizer}
  {season : Season} {table : Table}

private theorem tables_answering (settings : SourceSettings) (exchange : Exchange)
    (season : Season) :
    (answering settings exchange).tables season = (do
      let _ ← (settings.request.url? season).mapError fun e ↦
        .configuration (.invalidBaseUrl settings.baseUrl e)
      StatsSource.tablesOfExchange exchange) := rfl

theorem rows_answering_of_error {e : UrlError} (h : settings.request.url? season = .error e) :
    (answering settings exchange).rows normalizer season =
      .error (.configuration (.invalidBaseUrl settings.baseUrl e)) := by
  rw [rows, firstTable, tables_answering, h]
  rfl

theorem rows_answering_of_unavailable {url : Url} (h : settings.request.url? season = .ok url)
    (hexchange : exchange.Unavailable) : ∃ fault,
      (answering settings exchange).rows normalizer season =
        .error (.sourceUnavailable fault) := by
  obtain ⟨fault, hfault⟩ := hexchange.exists_fault
  refine ⟨fault, ?_⟩
  rw [rows, firstTable, tables_answering, h, hfault]
  rfl

theorem rows_answering_of_offers {url : Url} (h : settings.request.url? season = .ok url)
    (hexchange : exchange.Offers table) :
    (answering settings exchange).rows normalizer season = normalizer.normalize table := by
  obtain ⟨rest, htables⟩ := hexchange.exists_tables
  rw [rows, firstTable, tables_answering, h, htables]
  rfl

end SteadySource

namespace Run

/-- Normalizes a table and writes the rows. -/
def writeNormalized (normalizer : Normalizer) (output : OutputSettings) (table : Table) :
    Run (List StandingsRow) := do
  let rows ← ofExcept (normalizer.normalize table)
  saveStandings output rows
  return rows

section Outcome

variable {settings : SourceSettings} {exchange : Exchange} {normalizer : Normalizer}
  {output : OutputSettings} {season : Season} {url : Url} {table : Table} {world : World}

theorem effect_writeNormalized :
    (writeNormalized normalizer output table).effect world =
      commit output.standingsPath StandingsRow.fileBytes (normalizer.normalize table)
        world.files :=
  effect_bind_save (reads_ofExcept _)

theorem writeNormalized_ne_sourceUnavailable (fault : SourceFault) :
    ((writeNormalized normalizer output table).effect world).1 ≠
      .error (.sourceUnavailable fault) := by
  intro h
  rw [effect_writeNormalized] at h
  cases hrows : normalizer.normalize table with
  | error failure =>
    rw [hrows, commit] at h
    cases h
    cases Normalizer.fails_of_normalize_eq_error hrows
  | ok rows =>
    rw [hrows, commit] at h
    split at h <;> cases h

private theorem effect_service :
    (fetchStandings (.service settings (.answering exchange)) normalizer output season).effect
        world =
      commit output.standingsPath StandingsRow.fileBytes
        ((SteadySource.answering settings exchange).rows normalizer season) world.files :=
  effect_fetchStandings (.answering settings exchange) _ _ _ _

private theorem effect_service_of_error {e : UrlError}
    (h : settings.request.url? season = .error e) :
    (fetchStandings (.service settings (.answering exchange)) normalizer output season).effect
        world =
      (.error (.configuration (.invalidBaseUrl settings.baseUrl e)), world.files) := by
  rw [effect_service, SteadySource.rows_answering_of_error h, commit]

private theorem effect_service_of_unavailable (h : settings.request.url? season = .ok url)
    (hexchange : exchange.Unavailable) : ∃ fault,
    (fetchStandings (.service settings (.answering exchange)) normalizer output season).effect
        world =
      (.error (.sourceUnavailable fault), world.files) := by
  obtain ⟨fault, hfault⟩ := SteadySource.rows_answering_of_unavailable h hexchange
  refine ⟨fault, ?_⟩
  rw [effect_service, hfault, commit]

private theorem effect_service_of_offers (h : settings.request.url? season = .ok url)
    (hexchange : exchange.Offers table) :
    (fetchStandings (.service settings (.answering exchange)) normalizer output season).effect
        world =
      (writeNormalized normalizer output table).effect world := by
  rw [effect_service, SteadySource.rows_answering_of_offers h hexchange, effect_writeNormalized]

/-- A run that has a URL fails for want of a source exactly if no table can be had. -/
private theorem service_sourceUnavailable_iff (h : settings.request.url? season = .ok url) :
    (∃ fault, ((fetchStandings (.service settings (.answering exchange)) normalizer output
      season).effect world).1 = .error (.sourceUnavailable fault)) ↔ exchange.Unavailable := by
  constructor
  · rintro ⟨fault, hfault⟩
    by_contra havailable
    obtain ⟨table, hoffers⟩ := exchange.unavailable_or_offers.resolve_left havailable
    rw [effect_service_of_offers h hoffers] at hfault
    exact writeNormalized_ne_sourceUnavailable fault hfault
  · intro hunavailable
    obtain ⟨fault, heffect⟩ := effect_service_of_unavailable h hunavailable
    exact ⟨fault, congrArg Prod.fst heffect⟩

end Outcome

/-- **The outcome of a standings run** over the statistics service, whatever the settings, the
season, the normalizer, the files and the outcome of a request:

* if the settings make no URL, the run asks for nothing, fails over the configuration and leaves
  the files as they were;
* otherwise it asks for that URL once, and for nothing else. It fails for want of a source exactly
  if no table can be had from the exchange, and then it leaves the files as they were. If one can
  be had, the run does to the files what normalizing and writing the first table does, and has its
  result;
* so it makes no difference which of two replies with the same first table came. -/
theorem fetchStandings_service (settings : SourceSettings) (exchange : Exchange)
    (normalizer : Normalizer) (output : OutputSettings) (season : Season) (world : World) :
    let run := fun exchange ↦
      fetchStandings (.service settings (.answering exchange)) normalizer output season
    (∀ e, settings.request.url? season = .error e →
      (run exchange).effect world =
        (.error (.configuration (.invalidBaseUrl settings.baseUrl e)), world.files) ∧
      ((run exchange).exec world).2.requested = world.requested) ∧
    (∀ url, settings.request.url? season = .ok url →
      ((run exchange).exec world).2.requested = world.requested ++ [url.toText] ∧
      ((∃ fault, ((run exchange).effect world).1 = .error (.sourceUnavailable fault)) ↔
        exchange.Unavailable) ∧
      (exchange.Unavailable → ((run exchange).effect world).2 = world.files) ∧
      (¬ exchange.Unavailable → ∃ table, exchange.Offers table ∧
        (run exchange).effect world = (writeNormalized normalizer output table).effect world)) ∧
    ∀ other table, exchange.Offers table → other.Offers table →
      (run exchange).effect world = (run other).effect world := by
  intro run
  refine ⟨fun e he ↦ ⟨effect_service_of_error he, ?_⟩,
    fun url hurl ↦ ⟨?_, service_sourceUnavailable_iff hurl, ?_, ?_⟩,
    fun other table hoffers hother ↦ ?_⟩
  · have hrequests : (run exchange).Requests [] :=
      requests_fetchStandings (requests_service_of_error he _) normalizer output
    rw [hrequests world, List.append_nil]
  · have hrequests : (run exchange).Requests [url.toText] :=
      requests_fetchStandings (requests_service_of_ok hurl exchange) normalizer output
    exact hrequests world
  · intro hunavailable
    obtain ⟨fault, heffect⟩ := effect_service_of_unavailable hurl hunavailable
    exact congrArg Prod.snd heffect
  · intro havailable
    obtain ⟨table, hoffers⟩ := exchange.unavailable_or_offers.resolve_left havailable
    exact ⟨table, hoffers, effect_service_of_offers hurl hoffers⟩
  · cases hurl : settings.request.url? season with
    | error e => exact (effect_service_of_error hurl).trans (effect_service_of_error hurl).symm
    | ok url =>
      exact (effect_service_of_offers hurl hoffers).trans
        (effect_service_of_offers hurl hother).symm

/-- A service on this machine. -/
def localService : SourceSettings := { baseUrl := "http://[::1]" }

/-- The table of the bodies below. -/
def headersTable : Table := ⟨"Standings", ["TeamID", "PointsPG"], []⟩

/-- A body with that table and one more. -/
def longBody : List UInt8 :=
  let nameless : Json := .obj [("headers", .arr []), ("rowSet", .arr [])]
  Utf8.encode (Json.obj [("resultSets", .arr [.obj headersTable.fields, nameless])]).compact

/-- A body with that table alone, in another spelling. -/
def shortBody : List UInt8 :=
  Utf8.encode "\x7b \"resultSet\": [\"Standings\", [\"TeamID\", \"PointsPG\"], []] \x7d"

/-- A base that is no URL, a reply without success and two replies with the same first table. -/
theorem fetchStandings_service_replies :
    let run := fun settings exchange ↦ fetchStandings (.service settings (.answering exchange))
      ({} : StandingsSettings).normalizer {} ⟨"2025-26"⟩
    let world : World := { files := .workingIn [] }
    ((run { baseUrl := "nowhere" } (.reply 200 longBody)).exec world).2.requested = [] ∧
    ((run localService (.reply 200 longBody)).exec world).2.requested =
      ["http://[::1]/leaguestandingsv3?LeagueID=00&Season=2025-26&SeasonType=Regular+Season"] ∧
    (∃ fault, ((run localService (.reply 404 longBody)).effect world).1 =
      .error (.sourceUnavailable fault)) ∧
    (run localService (.reply 200 longBody)).effect world =
      (run localService (.reply 299 shortBody)).effect world := by
  intro run world
  have hnowhere : ({ baseUrl := "nowhere" } : SourceSettings).request.url? ⟨"2025-26"⟩ =
      .error .relativeWithoutBase := by decide +kernel
  have hurl : (localService.request.url? ⟨"2025-26"⟩).map Url.toText = .ok
      "http://[::1]/leaguestandingsv3?LeagueID=00&Season=2025-26&SeasonType=Regular+Season" := by
    decide +kernel
  have hlong : (Exchange.reply 200 longBody).Offers headersTable :=
    ⟨_, _, _, rfl, by decide, by decide, rfl⟩
  have hshort : (Exchange.reply 299 shortBody).Offers headersTable :=
    ⟨_, _, [], rfl, by decide, by decide, rfl⟩
  have hrefused : (Exchange.reply 404 longBody).Unavailable := .refused _ (.inr (by decide))
  obtain ⟨url, hok⟩ : ∃ url, localService.request.url? ⟨"2025-26"⟩ = .ok url :=
    exists_of_isOk (by decide +kernel)
  rw [hok] at hurl
  obtain ⟨hmissing, -⟩ := fetchStandings_service { baseUrl := "nowhere" } (.reply 200 longBody)
    ({} : StandingsSettings).normalizer {} ⟨"2025-26"⟩ world
  obtain ⟨-, hfound, hsame⟩ := fetchStandings_service localService (.reply 200 longBody)
    ({} : StandingsSettings).normalizer {} ⟨"2025-26"⟩ world
  obtain ⟨-, hfails, -⟩ := fetchStandings_service localService (.reply 404 longBody)
    ({} : StandingsSettings).normalizer {} ⟨"2025-26"⟩ world
  refine ⟨(hmissing _ hnowhere).2, ?_, (hfails url hok).2.1.mpr hrefused, hsame _ _ hlong hshort⟩
  rw [(hfound url hok).1, Except.ok.inj hurl]
  rfl

end Run

end LeagueStandings
