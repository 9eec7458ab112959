import ClientWiring.Client.Builder
import ClientWiring.Client.Call
import ClientWiring.Formats.ContentType
import ClientWiring.Proofs.Json.Reader
set_option autoImplicit false

/-! What a call makes of its exchange. A failure of the request is an error of the client. A response
gives a value or an error of the client, unless its body is unreadable: text that the library for
bodies fails to read, or JSON text that cannot be decoded or passes a limit. The kind of client makes
no difference. -/

namespace ClientWiring

/-- JSON text with few brackets and digits, which no limit concerns, has a value or is malformed. -/
theorem Json.read_of_few {limits : Limits} {points : CodePoints}
    (shallow : points.countP isOpening ≤ limits.depth)
    (short : ∀ limit, limits.digits = some limit → points.countP isDigit ≤ limit) :
    (∃ value, read limits points = .ok value) ∨ read limits points = .error .malformed := by
  cases result : read limits points with
  | ok value => exact .inl ⟨value, rfl⟩
  | error e =>
      rcases read_eq_error result with rfl | ⟨limit, digits, limited, many, few, -⟩ | ⟨_, deep, -⟩
      · exact .inr rfl
      · have := short limit limited
        omega
      · omega

/-! ### Responses -/

namespace Response

/-- The body is looked at as text: of an error, or of a response that does not say JSON. -/
def GivesText (response : Response) : Prop :=
  response.isError = true ∨
    response.body ≠ [] ∧ ContentType.saysJson response.contentType? = false

def GivesJson (response : Response) : Prop :=
  response.isError = false ∧ response.body ≠ [] ∧
    ContentType.saysJson response.contentType? = true

variable [Runtime] [BodyReader]

inductive Unreadable (response : Response) : EscapedError → Prop
  | unread {e : Thrown} (text : response.GivesText) (fails : response.text = .error e) :
      Unreadable response (.thrown e)
  | undecodable {fault : Text.ByteFault} (json : response.GivesJson)
      (fails : Json.textOfBytes response.body = .error fault) :
      Unreadable response (.undecodable fault)
  | tooManyDigits {points : CodePoints} {digits : Nat} (json : response.GivesJson)
      (decoded : Json.textOfBytes response.body = .ok points)
      (passes : Json.read Call.bodyLimits points = .error (.tooManyDigits digits)) :
      Unreadable response (.tooManyDigits digits)
  | tooDeep {points : CodePoints} {inArray : Bool} (json : response.GivesJson)
      (decoded : Json.textOfBytes response.body = .ok points)
      (passes : Json.read Call.bodyLimits points = .error (.tooDeep inArray)) :
      Unreadable response (.tooDeep inArray)

end Response

namespace Call

variable [Runtime]

theorem jsonValue_of_undecodable (call : Call) {body : List UInt8} {fault : Text.ByteFault}
    (fails : Json.textOfBytes body = .error fault) :
    call.jsonValue body = .error (.escaped (.undecodable fault)) := by
  rw [jsonValue, Json.readBytes, fails]
  rfl

theorem jsonValue_of_decoded (call : Call) {body : List UInt8} {points : CodePoints}
    (decoded : Json.textOfBytes body = .ok points) :
    call.jsonValue body =
      match Json.read bodyLimits points with
      | .ok value => .ok value
      | .error .malformed => .error (.client (.invalidJson call.method call.path))
      | .error (.tooManyDigits digits) => .error (.escaped (.tooManyDigits digits))
      | .error (.tooDeep inArray) => .error (.escaped (.tooDeep inArray)) := by
  have read : Json.readBytes bodyLimits body = (Json.read bodyLimits points).mapError .unread := by
    rw [Json.readBytes, decoded]
    rfl
  rw [jsonValue, read]
  cases Json.read bodyLimits points with
  | ok value => rfl
  | error e => cases e <;> rfl

variable [BodyReader]

/-- What a call has of a response: an error for an error, nothing for an empty body, the text of a
body that is not JSON, and else what its JSON text denotes. -/
inductive Answers (call : Call) (response : Response) : Except CallError Json.Node → Prop
  | refused {text : CodePoints} (error : response.isError = true)
      (read : response.text = .ok text) :
      Answers call response
        (.error (.client (.refused response.status call.method call.path (excerpt text))))
  | nothing (fine : response.isError = false) (empty : response.body = []) :
      Answers call response (.ok .null)
  | text {text : CodePoints} (fine : response.isError = false) (filled : response.body ≠ [])
      (kind : ContentType.saysJson response.contentType? = false)
      (read : response.text = .ok text) :
      Answers call response (.ok (.text text))
  | json {points : CodePoints} {value : Json.Node} (json : response.GivesJson)
      (decoded : Json.textOfBytes response.body = .ok points)
      (read : Json.read bodyLimits points = .ok value) :
      Answers call response (.ok value)
  | invalidJson {points : CodePoints} (json : response.GivesJson)
      (decoded : Json.textOfBytes response.body = .ok points)
      (malformed : Json.read bodyLimits points = .error .malformed) :
      Answers call response (.error (.client (.invalidJson call.method call.path)))
  | unreadable {e : EscapedError} (unreadable : response.Unreadable e) :
      Answers call response (.error (.escaped e))

section Handle

variable (call : Call) {response : Response}

theorem handle_of_error (error : response.isError = true) :
    (call.handle response).1 =
      (response.text.mapError fun e => CallError.escaped (.thrown e)).bind fun text =>
        .error (.client (.refused response.status call.method call.path (excerpt text))) := by
  rw [handle, if_pos error]
  cases response.text <;> rfl

theorem handle_of_nothing (fine : response.isError = false) (empty : response.body = []) :
    (call.handle response).1 = .ok .null := by
  rw [handle, fine, if_neg Bool.false_ne_true, value, empty]
  rfl

theorem handle_of_text (fine : response.isError = false) (filled : response.body ≠ [])
    (kind : ContentType.saysJson response.contentType? = false) :
    (call.handle response).1 =
      (response.text.mapError fun e => CallError.escaped (.thrown e)).map .text := by
  have nonempty : response.body.isEmpty = false := List.isEmpty_eq_false_iff.mpr filled
  rw [handle, fine, if_neg Bool.false_ne_true, value, nonempty, if_neg Bool.false_ne_true, kind,
    if_neg Bool.false_ne_true]
  cases response.text <;> rfl

theorem handle_of_json (json : response.GivesJson) :
    (call.handle response).1 = call.jsonValue response.body := by
  obtain ⟨fine, filled, kind⟩ := json
  have nonempty : response.body.isEmpty = false := List.isEmpty_eq_false_iff.mpr filled
  rw [handle, fine, if_neg Bool.false_ne_true, value, nonempty, if_neg Bool.false_ne_true, kind,
    if_pos rfl]

theorem answers_jsonValue (json : response.GivesJson) :
    call.Answers response (call.jsonValue response.body) := by
  cases decoded : Json.textOfBytes response.body with
  | error fault =>
      rw [call.jsonValue_of_undecodable decoded]
      exact .unreadable (.undecodable json decoded)
  | ok points =>
      rw [call.jsonValue_of_decoded decoded]
      cases read : Json.read bodyLimits points with
      | ok value => exact .json json decoded read
      | error e =>
          cases e with
          | malformed => exact .invalidJson json decoded read
          | tooManyDigits digits => exact .unreadable (.tooManyDigits json decoded read)
          | tooDeep inArray => exact .unreadable (.tooDeep json decoded read)

theorem answers_handle (response : Response) :
    call.Answers response (call.handle response).1 := by
  cases fine : response.isError with
  | true =>
      rw [call.handle_of_error fine]
      cases read : response.text with
      | ok text => exact .refused fine read
      | error e => exact .unreadable (.unread (.inl fine) read)
  | false =>
      by_cases empty : response.body = []
      · rw [call.handle_of_nothing fine empty]
        exact .nothing fine empty
      cases kind : ContentType.saysJson response.contentType? with
      | true =>
          rw [call.handle_of_json ⟨fine, empty, kind⟩]
          exact call.answers_jsonValue ⟨fine, empty, kind⟩
      | false =>
          rw [call.handle_of_text fine empty kind]
          cases read : response.text with
          | ok text => exact .text fine empty kind read
          | error e => exact .unreadable (.unread (.inr ⟨empty, kind⟩) read)

theorem handle_of_unreadable {e : EscapedError} (unreadable : response.Unreadable e) :
    (call.handle response).1 = .error (.escaped e) := by
  cases unreadable with
  | unread text fails =>
      cases fine : response.isError with
      | true =>
          rw [call.handle_of_error fine, fails]
          rfl
      | false =>
          obtain ⟨filled, kind⟩ := text.resolve_left (by rw [fine]; exact Bool.false_ne_true)
          rw [call.handle_of_text fine filled kind, fails]
          rfl
  | undecodable json fails =>
      rw [call.handle_of_json json, call.jsonValue_of_undecodable fails]
  | tooManyDigits json decoded passes | tooDeep json decoded passes =>
      rw [call.handle_of_json json, call.jsonValue_of_decoded decoded, passes]

/-- What a call has of a response is one of its answers, and there is no other. -/
theorem handle_eq_iff (response : Response) (outcome : Except CallError Json.Node) :
    (call.handle response).1 = outcome ↔ call.Answers response outcome := by
  constructor
  · rintro rfl
    exact call.answers_handle response
  · intro answers
    cases answers with
    | refused error read =>
        rw [call.handle_of_error error, read]
        rfl
    | nothing fine empty => exact call.handle_of_nothing fine empty
    | text fine filled kind read =>
        rw [call.handle_of_text fine filled kind, read]
        rfl
    | json json decoded read | invalidJson json decoded read =>
        rw [call.handle_of_json json, call.jsonValue_of_decoded decoded, read]
    | unreadable unreadable => exact call.handle_of_unreadable unreadable

/-- What passes a call unchanged is what makes the response unreadable. -/
theorem handle_escapes_iff (response : Response) (e : EscapedError) :
    (call.handle response).1 = .error (.escaped e) ↔ response.Unreadable e := by
  rw [handle_eq_iff]
  constructor
  · intro answers
    cases answers with
    | unreadable unreadable => exact unreadable
  · exact .unreadable

end Handle

end Call

/-! ### Both kinds of client -/

namespace HttpClient

theorem filterRequest_eq (asynchronous other : Bool) {filters : List RequestFilter}
    (immediate : ∀ filter ∈ filters, filter.asynchronous = false) (request : Request)
    (notes : List String) :
    filterRequest asynchronous filters request notes = filterRequest other filters request notes := by
  induction filters generalizing request notes with
  | nil => rfl
  | cons filter rest ih =>
      have later : ∀ filter ∈ rest, filter.asynchronous = false :=
        fun filter member => immediate filter (List.mem_cons_of_mem _ member)
      have plain := immediate filter List.mem_cons_self
      simp only [filterRequest, RequestFilter.heldIn_eq_self (.inr plain), ih later]

theorem exchange_asynchronous [Url.Idna] {client : HttpClient} (asynchronous : Bool)
    (immediate : ∀ filter ∈ client.requestHooks, filter.asynchronous = false) (afterwards : String)
    (hops : Nat) (request : Request) (replies : List Reply) (traffic : Traffic) :
    { client with asynchronous := asynchronous }.exchange afterwards hops request replies traffic =
      client.exchange afterwards hops request replies traffic := by
  have filtered := filterRequest_eq asynchronous client.asynchronous immediate
  -- Each round of an exchange takes one of the replies, so these carry the induction.
  induction replies generalizing hops request traffic with
  | nil =>
      unfold exchange
      dsimp only
      rw [filtered]
  | cons reply rest ih =>
      unfold exchange
      dsimp only
      rw [filtered]
      cases reply with
      | response response => simp only [ih]
      | _ => rfl

end HttpClient

/-- The outcome of a call that can be sent. A failure of the request is an error of the client. A
response has exactly one answer, which is a value or such an error, except where the response is
unreadable, and then the cause passes the call. JSON text that can be decoded, with no more brackets
than levels can be read and no more digits than a number can have, has its value or is reported as
invalid. Without filters that have to be waited for, both kinds of client do the same. -/
theorem Call.perform_answers [Url.Idna] [Runtime] [BodyReader] (client : HttpClient)
    (afterwards : String) (call : Call) (session : Session) (request : Request)
    (made : call.request client = .ok request) :
    let exchanged := (client.exchange afterwards 0 request session.replies session.traffic).1
    let result := (call.perform client afterwards session).1
    (exchanged = .error (.request .timedOut) →
      result = .error (.client (.timedOut call.method call.path))) ∧
    (∀ failure, failure ≠ .timedOut → exchanged = .error (.request failure) →
      result = .error (.client (.failed call.method call.path failure.message))) ∧
    (∀ response, exchanged = .ok response →
      (∀ outcome, result = outcome ↔ call.Answers response outcome) ∧
      (∀ e, result = .error (.escaped e) ↔ response.Unreadable e) ∧
      ∀ points, response.GivesJson → Json.textOfBytes response.body = .ok points →
        points.countP Json.isOpening ≤ Runtime.readLevels →
        points.countP Json.isDigit ≤ Number.digitLimit →
        (∃ value, Json.read bodyLimits points = .ok value ∧ result = .ok value) ∨
        Json.read bodyLimits points = .error .malformed ∧
          result = .error (.client (.invalidJson call.method call.path))) ∧
    ((∀ filter ∈ client.requestHooks, filter.asynchronous = false) → ∀ asynchronous,
      call.perform { client with asynchronous := asynchronous } afterwards session =
        call.perform client afterwards session) := by
  intro exchanged result
  have of_error {e : ExchangeError} (failed : exchanged = .error e) :
      result = .error (call.ofExchangeError e) := by
    dsimp only [result, exchanged] at failed ⊢
    unfold perform
    rw [made]
    dsimp only
    rw [failed]
  have of_response {response : Response} (answered : exchanged = .ok response) :
      result = (call.handle response).1 := by
    dsimp only [result, exchanged] at answered ⊢
    unfold perform
    rw [made]
    dsimp only
    rw [answered]
  refine ⟨of_error, ?_, ?_, ?_⟩
  · intro failure other failed
    rw [of_error failed]
    cases failure with
    | timedOut => exact absurd rfl other
    | _ => rfl
  · intro response answered
    rw [of_response answered]
    refine ⟨call.handle_eq_iff response, call.handle_escapes_iff response, ?_⟩
    intro points json decoded shallow short
    have few : ∀ limit, bodyLimits.digits = some limit → points.countP Json.isDigit ≤ limit :=
      fun _ limited => Option.some.inj limited ▸ short
    simp only [handle_eq_iff]
    have ends : (∃ value, Json.read bodyLimits points = .ok value) ∨
        Json.read bodyLimits points = .error .malformed := Json.read_of_few shallow few
    rcases ends with ⟨value, read⟩ | malformed
    · exact .inl ⟨value, read, .json json decoded read⟩
    · exact .inr ⟨malformed, .invalidJson json decoded malformed⟩
  · intro immediate asynchronous
    have same : call.request { client with asynchronous := asynchronous } = call.request client :=
      rfl
    unfold perform
    rw [same, made]
    dsimp only
    rw [HttpClient.exchange_asynchronous asynchronous immediate]

def HttpClient.plain : HttpClient where
  interface := default
  asynchronous := false
  baseUrl := ⟨"http", "", "api.local", none, "/", none, none⟩
  timeouts := ⟨none, none, none, none⟩
  limits := ⟨100, 20, none⟩
  tls := none
  followRedirects := false
  maxRedirects := 20
  requestHooks := []
  responseHooks := []
  proxy := none
  queryStyle := .multiPairs
  properties := []

def Call.items : Call := ⟨"GET", "/items", [], [], .empty⟩

def Call.Session.json (body : List UInt8) : Call.Session :=
  ⟨[.response ⟨200, [("content-type", "application/json")], body, none⟩], ⟨[], []⟩, []⟩

open scoped Sample in
theorem Call.perform_answers_unclosed :
    ∃ request, items.request .plain = .ok request ∧
      (items.perform .plain "" (.json [0x5B])).1 =
        .error (.client (.invalidJson "GET" "/items")) := by
  have sent : (items.request .plain).toBool = true := by decide +kernel
  cases made : items.request .plain with
  | error e =>
      rw [made] at sent
      cases sent
  | ok request =>
      refine ⟨request, rfl, ?_⟩
      obtain ⟨-, -, answered, -⟩ := perform_answers .plain "" items (.json [0x5B]) request made
      obtain ⟨-, -, few⟩ := answered _ rfl
      rcases few (.ofString "[") ⟨rfl, nofun, by decide +kernel⟩ (by decide +kernel) (by decide)
          (by decide) with
        ⟨value, read, -⟩ | ⟨-, reported⟩
      · have unread : (Json.read bodyLimits (.ofString "[")).toBool = false := by decide +kernel
        rw [read] at unread
        cases unread
      · exact reported

open scoped Sample in
/-- A byte that starts no character passes the call, although the response says JSON. -/
theorem Call.perform_undecodable :
    (items.perform .plain "" (.json [0x80])).1 =
      .error (.escaped (.undecodable ⟨"utf-8", [0x80], 0, "invalid start byte"⟩)) := by
  have passes : (match (items.perform .plain "" (.json [0x80])).1 with
    | .error e => some e
    | .ok _ => none) =
      some (.escaped (.undecodable ⟨"utf-8", [0x80], 0, "invalid start byte"⟩)) := by
    decide +kernel
  split at passes
  next e failed =>
    rw [failed, Option.some.inj passes]
  · cases passes

end ClientWiring
