import ClientWiring.Proofs.Client.Answer
import ClientWiring.Proofs.Client.Building
import ClientWiring.Proofs.Request.Params
import ClientWiring.Proofs.Url.Query
set_option autoImplicit false

/-! The query of the request of a call whose parameters become no pairs. None is sent, whatever query
its path is written with: the request is that of the path without its query. So the written query
arrives only where there is nothing to lose. -/

namespace ClientWiring

theorem Url.rawPath_eq (url : Url) :
    url.rawPath = ({ url with query := none } : Url).rawPath ++
      String.ofList (marked '?' (url.query.map String.toList)) := by
  unfold rawPath
  cases url.query with
  | none => simp [marked]
  | some query =>
      have same : String.ofList (marked '?' (some query.toList)) = "?" ++ query := by
        rw [← String.toList_inj, String.toList_ofList, String.toList_append]
        rfl
      rw [Option.map_some, same]
      dsimp only
      rw [String.append_empty]

namespace Call

open HttpClientBuilder (mapError_ok_bind)

theorem exists_of_mapError_bind {ε ε' α γ : Type} {result : Except ε α} {toError : ε → ε'}
    {next : α → Except ε' γ} {c : γ} (made : (result.mapError toError >>= next) = .ok c) :
    ∃ a, result = .ok a ∧ next a = .ok c := by
  cases result with
  | error e => cases made
  | ok a => exact ⟨a, rfl, made⟩

section Request

variable [Url.Idna]

theorem place_of_parsed {path : String} {url : Url} (parsed : Url.parse path = .ok url)
    (base : Url) :
    place base path =
      if url.isAbsolute then .ok url
      else base.withRawPath
        (base.rawPath ++ String.ofList (url.rawPath.toList.dropWhile fun c => c == '/')) := by
  rw [place, parsed]
  rfl

/-- A path and the same without its query are placed at URLs that differ in their query only. -/
theorem place_written {base url : Url} {path : String} {front : List Char}
    {query fragment : Option (List Char)} (written : Url.Written path.toList front query fragment)
    (placed : place base path = .ok url) :
    ∃ other, place base (String.ofList (front ++ Url.marked '#' fragment)) = .ok other ∧
      ∀ query, other.withQuery query = url.withQuery query := by
  cases parsed : Url.parse path with
  | error e =>
      rw [place, parsed] at placed
      cases placed
  | ok named =>
      rw [place_of_parsed parsed] at placed
      rw [place_of_parsed (Url.parse_written written parsed).2]
      have same : ({ named with query := none } : Url).isAbsolute = named.isAbsolute := rfl
      rw [same]
      cases absolute : named.isAbsolute with
      | true =>
          rw [absolute, if_pos rfl] at placed
          cases placed
          exact ⟨_, if_pos rfl, Url.withQuery_replaces url none⟩
      | false =>
          have stops : ∀ c, (Url.marked '?' (named.query.map String.toList)).head? = some c →
              (c == '/') = false := by
            intro c first
            rw [List.mem_singleton.mp (Url.begins_marked c first)]
            rfl
          rw [absolute, if_neg Bool.false_ne_true, Url.rawPath_eq named, String.toList_append,
            String.toList_ofList, (Text.takeWhile_append_stop stops _).2, String.ofList_append,
            ← String.append_assoc] at placed
          exact Url.withRawPath_append Url.begins_marked placed

variable [Runtime]

/-- A request goes where its path is placed, with the query of its parameters. -/
theorem url_of_request {client : HttpClient} {call : Call} {request : Request}
    (made : call.request client = .ok request) :
    ∃ pairs url, client.queryStyle.encodeParams call.params = .ok pairs ∧
      place client.baseUrl call.path = .ok url ∧
      url.withQuery (query? pairs) = .ok request.url := by
  unfold Call.request at made
  obtain ⟨pairs, encoded, made⟩ := exists_of_mapError_bind made
  obtain ⟨url, placed, made⟩ := exists_of_mapError_bind made
  obtain ⟨headers, -, made⟩ := exists_of_mapError_bind made
  obtain ⟨changed, replaced, made⟩ := exists_of_mapError_bind made
  obtain ⟨⟨body, described⟩, -, made⟩ := exists_of_mapError_bind made
  obtain ⟨fields, -, made⟩ := exists_of_mapError_bind made
  cases made
  exact ⟨pairs, url, encoded, placed, replaced⟩

/-- Paths that are placed at the same URL, the query apart, make the same request. -/
theorem request_congr {client : HttpClient} {call : Call} {path : String} {url other : Url}
    (placed : place client.baseUrl call.path = .ok url)
    (again : place client.baseUrl path = .ok other)
    (same : ∀ query, other.withQuery query = url.withQuery query) :
    { call with path := path }.request client = call.request client := by
  unfold Call.request
  dsimp only
  cases client.queryStyle.encodeParams call.params with
  | error e => rfl
  | ok pairs =>
      rw [placed, again, mapError_ok_bind, mapError_ok_bind, mapError_ok_bind, mapError_ok_bind,
        same]

/-- The query that a path is written with does not matter to the request, whatever the parameters. -/
theorem request_written {client : HttpClient} {call : Call} {request : Request} {front : List Char}
    {query fragment : Option (List Char)}
    (written : Url.Written call.path.toList front query fragment)
    (made : call.request client = .ok request) :
    { call with path := String.ofList (front ++ Url.marked '#' fragment) }.request client =
      .ok request := by
  obtain ⟨-, url, -, placed, -⟩ := url_of_request made
  obtain ⟨other, again, same⟩ := place_written written placed
  exact (request_congr placed again same).trans made

theorem query_of_request {client : HttpClient} {call : Call} {request : Request}
    (noPairs : client.queryStyle.encodeParams call.params = .ok [])
    (made : call.request client = .ok request) : request.url.query = none := by
  obtain ⟨pairs, url, encoded, -, replaced⟩ := url_of_request made
  cases noPairs.symm.trans encoded
  exact Url.query_of_withQuery replaced

end Request

end Call

/-- The first request that an exchange without filters sends is the one it is given; what redirects
lead to comes after it. -/
theorem HttpClient.exchange_sends [Url.Idna] {client : HttpClient}
    (unfiltered : client.requestHooks = []) (afterwards : String) (hops : Nat) (request : Request) (replies : List Reply)
    (traffic : Traffic) :
    ∃ more, (client.exchange afterwards hops request replies traffic).2.2.sent =
        traffic.sent ++ more ∧
      more.head? = if client.maxRedirects < hops then none else some request := by
  induction replies generalizing hops request traffic with
  | nil =>
      unfold exchange
      rw [unfiltered]
      by_cases exceeded : client.maxRedirects < hops
      · rw [if_pos exceeded, if_pos exceeded]
        exact ⟨[], (List.append_nil _).symm, rfl⟩
      · rw [if_neg exceeded, if_neg exceeded]
        exact ⟨[request], rfl, rfl⟩
  | cons reply rest ih =>
      unfold exchange
      rw [unfiltered]
      by_cases exceeded : client.maxRedirects < hops
      · rw [if_pos exceeded, if_pos exceeded]
        exact ⟨[], (List.append_nil _).symm, rfl⟩
      · rw [if_neg exceeded, if_neg exceeded]
        have alone {e : Except ExchangeError Response} {left : List Reply} {after : Traffic}
            (sent : after.sent = traffic.sent ++ [request]) :
            ∃ more, (e, left, after).2.2.sent = traffic.sent ++ more ∧ more.head? = some request :=
          ⟨[request], sent, rfl⟩
        cases reply with
        | response response =>
            dsimp only [filterRequest]
            rcases inspectResponse request response client.responseHooks with ⟨e | ⟨⟩, sightings⟩
            · exact alone rfl
            dsimp only
            cases response.location? with
            | none => exact alone rfl
            | some location =>
                dsimp only
                cases request.redirected response.status location with
                | error e => exact alone rfl
                | ok next =>
                    dsimp only
                    split
                    · obtain ⟨more, sent, -⟩ := ih (hops + 1) next _
                      refine ⟨request :: more, sent.trans ?_, rfl⟩
                      rw [← List.singleton_append, ← List.append_assoc]
                      rfl
                    · exact alone rfl
        | _ => exact alone rfl

namespace Call

section Perform

variable [Url.Idna] [Runtime] [BodyReader]

theorem perform_traffic {client : HttpClient} {call : Call} {request : Request}
    (made : call.request client = .ok request) (afterwards : String) (session : Session) :
    (call.perform client afterwards session).2.traffic =
      (client.exchange afterwards 0 request session.replies session.traffic).2.2 := by
  rw [perform, made]
  dsimp only
  rcases client.exchange afterwards 0 request session.replies session.traffic with
    ⟨e | response, replies, traffic⟩ <;> rfl

/-- What a call sends first, where its parameters become no pairs and no filter sees it. Its path may
be written with a query, and is read with it; the request has none, so it carries the written query
exactly where that is empty. The same path without its query makes the same request. -/
theorem perform_drops_query (client : HttpClient) (call : Call) (afterwards : String)
    (session : Session) (request : Request) (unfiltered : client.requestHooks = [])
    (noPairs : client.queryStyle.encodeParams call.params = .ok [])
    (made : call.request client = .ok request) :
    ∃ front query fragment,
      Url.Written call.path.toList front query fragment ∧
      (Url.parse call.path).map (·.query) = .ok (query.map Url.encodedQuery) ∧
      (∃ more, (call.perform client afterwards session).2.traffic.sent =
          session.traffic.sent ++ more ∧
        more.head? = if client.maxRedirects < 0 then none else some request) ∧
      request.url.query = none ∧
      (request.url.query.getD "" = Url.encodedQuery (query.getD []) ↔ query.getD [] = []) ∧
      { call with path := String.ofList (front ++ Url.marked '#' fragment) }.request client =
        .ok request := by
  obtain ⟨front, query, fragment, written⟩ := Url.exists_written call.path.toList
  have dropped := query_of_request noPairs made
  refine ⟨front, query, fragment, written, ?_, ?_, dropped, ?_, request_written written made⟩
  · cases parsed : Url.parse call.path with
    | error e =>
        obtain ⟨-, url, -, placed, -⟩ := url_of_request made
        rw [place, parsed] at placed
        cases placed
    | ok url => exact congrArg Except.ok (Url.parse_written written parsed).1
  · rw [perform_traffic made]
    exact HttpClient.exchange_sends unfiltered afterwards 0 request session.replies session.traffic
  · rw [dropped, Option.getD_none, eq_comm, Url.encodedQuery_eq_empty_iff]

end Perform

def tagged : Call :=
  ⟨"GET", "/items?tag=a&tag=b", [("limit", .null), ("ids", .list [])], [], .empty⟩

def Session.silent : Session :=
  ⟨[.response ⟨204, [], [], none⟩], ⟨[], []⟩, []⟩

open scoped Sample in
theorem perform_drops_query_tagged :
    ∃ request more,
      HttpClient.plain.requestHooks = [] ∧
      HttpClient.plain.queryStyle.encodeParams tagged.params = .ok [] ∧
      tagged.request .plain = .ok request ∧
      (tagged.perform .plain "" .silent).2.traffic.sent = request :: more ∧
      request.url.query = none := by
  have noPairs : HttpClient.plain.queryStyle.encodeParams tagged.params = .ok [] := by
    rw [QueryStyle.encodeParams_eq_nil_iff]
    refine ⟨by decide, ?_⟩
    intro entry member
    simp only [tagged, List.mem_cons, List.not_mem_nil, or_false] at member
    cases member with
    | inl limit => exact .inl (by rw [limit]; rfl)
    | inr ids => exact .inr (by rw [ids]; exact ⟨nofun, rfl⟩)
  have succeeds : (tagged.request .plain).toBool = true := by decide +kernel
  cases made : tagged.request .plain with
  | error e =>
      rw [made] at succeeds
      cases succeeds
  | ok request =>
      obtain ⟨_, _, _, _, _, ⟨more, sent, first⟩, dropped, _⟩ :=
        perform_drops_query .plain tagged "" .silent request rfl noPairs made
      obtain ⟨later, rfl⟩ := List.head?_eq_some_iff.mp first
      exact ⟨request, later, rfl, noPairs, rfl, sent, dropped⟩

open scoped Sample in
/-- Of the two tags that the path is written with neither is sent. -/
theorem perform_untagged :
    Url.Written tagged.path.toList "/items".toList (some "tag=a&tag=b".toList) none ∧
    HttpClient.plain.queryStyle.encodeParams tagged.params = .ok [] ∧
    (tagged.perform .plain "" .silent).2.traffic.sent.map (·.url.query.getD "") = [""] ∧
    Url.encodedQuery "tag=a&tag=b".toList ≠ "" := by
  refine ⟨⟨rfl, by simp, ?_⟩, rfl, by decide +kernel, ?_⟩
  · rintro part ⟨⟩
    simp
  · rw [Ne, Url.encodedQuery_eq_empty_iff]
    decide

end Call

end ClientWiring
