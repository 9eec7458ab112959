import ClientWiring.Http.Exchange
import ClientWiring.Log.Record
import ClientWiring.Request.Params
set_option autoImplicit false

/-! A call of a service: the request is made from a path and parameters, exchanged for a response,
and the response turned into a value. A call either gives a value or fails; what goes wrong with the
request or its response is an error of the client. -/

namespace ClientWiring

/-- The error of a call of a service. -/
inductive ClientError where
  /-- The service answers with an error; `body` is the beginning of its text. -/
  | refused (status : Nat) (method path : String) (body : CodePoints)
  | timedOut (method path : String)
  | failed (method path text : String)
  | invalidJson (method path : String)
  deriving DecidableEq, Repr

namespace ClientError

def message : ClientError → CodePoints
  | refused status method path body =>
    .ofString ("Error (" ++ toString status ++ ") during " ++ method ++ " " ++ path ++ ": ") ++
      (if body.isEmpty then .ofString "no body provided." else body)
  | timedOut method path => .ofString ("Request timed out (" ++ method ++ " " ++ path ++ ").")
  | failed method path text =>
    .ofString ("Request failed (" ++ method ++ " " ++ path ++ "): " ++ text)
  | invalidJson method path =>
    .ofString ("Invalid JSON returned during " ++ method ++ " " ++ path ++ ".")

end ClientError

inductive CallError where
  | client (error : ClientError)
  | escaped (error : EscapedError)
  deriving DecidableEq, Repr

structure Call where
  method : String
  path : String
  params : List (String × Value)
  headers : Headers
  content : Content
  deriving Repr, Inhabited

namespace Call

variable [Url.Idna]

/-- The URL of a path: an absolute one is taken as it is, any other is appended to the base URL. -/
def place (base : Url) (path : String) : Except UrlError Url := do
  let url ← Url.parse path
  if url.isAbsolute then pure url
  else
    base.withRawPath
      (base.rawPath ++ String.ofList (url.rawPath.toList.dropWhile fun c => c == '/'))

/-- Pairs with those of one name together, in the order of the first of each. -/
def grouped (pairs : List (String × String)) : List (String × String) :=
  (pairs.map Prod.fst).eraseDups.flatMap fun name => pairs.filter fun pair => pair.1 == name

def query? (pairs : List (String × String)) : Option String :=
  match grouped pairs with
  | [] => none
  | pairs =>
    some (String.ofList (['&'].intercalate (pairs.map fun pair =>
      Url.formEncode pair.1 ++ '=' :: Url.formEncode pair.2)))

variable [Runtime]

/-- The request of a call. The parameters of the call replace the query of its path. -/
def request (client : HttpClient) (call : Call) : Except EscapedError Request := do
  let pairs ← (client.queryStyle.encodeParams call.params).mapError .write
  let url ← (place client.baseUrl call.path).mapError .url
  let headers ← call.headers.sendable.mapError .unsendable
  let url ← (url.withQuery (query? pairs)).mapError .url
  let (body, described) ← call.content.encode.mapError .content
  let method := Text.upperKeyword call.method
  let headers ← (Request.completed method url headers described).mapError .label
  pure ⟨method, url, headers, body⟩

def bodyLimit : Nat := 512

def excerpt (text : CodePoints) : CodePoints :=
  let text := text.trim
  if bodyLimit < text.length then text.take bodyLimit ++ .ofString "..." else text

def refusalRecord (call : Call) (status : Nat) : LogRecord :=
  ⟨"restclient.clients.base", .warning, "REST client call failed",
    [("method", .text call.method), ("path", .text call.path), ("status_code", .int status)],
    none⟩

def bodyLimits : Json.Limits :=
  ⟨some Number.digitLimit, Runtime.readLevels⟩

def jsonValue (call : Call) (body : List UInt8) : Except CallError Json.Node :=
  match Json.readBytes bodyLimits body with
  | .ok value => .ok value
  | .error (.undecodable fault) => .error (.escaped (.undecodable fault))
  | .error (.unread .malformed) => .error (.client (.invalidJson call.method call.path))
  | .error (.unread (.tooManyDigits digits)) => .error (.escaped (.tooManyDigits digits))
  | .error (.unread (.tooDeep inArray)) => .error (.escaped (.tooDeep inArray))

variable [BodyReader]

/-- What a response gives a call: nothing for an empty body, what JSON text denotes, or the text. -/
def value (call : Call) (response : Response) : Except CallError Json.Node :=
  if response.body.isEmpty then .ok .null
  else if ContentType.saysJson response.contentType? then call.jsonValue response.body
  else
    match response.text with
    | .ok text => .ok (.text text)
    | .error e => .error (.escaped (.thrown e))

/-- What a response gives a call, and the records that are logged. -/
def handle (call : Call) (response : Response) : Except CallError Json.Node × List LogRecord :=
  if response.isError then
    match response.text with
    | .error e => (.error (.escaped (.thrown e)), [])
    | .ok text =>
      (.error (.client (.refused response.status call.method call.path (excerpt text))),
        [call.refusalRecord response.status])
  else (call.value response, [])

def ofExchangeError (call : Call) : ExchangeError → CallError
  | .request .timedOut => .client (.timedOut call.method call.path)
  | .request failure => .client (.failed call.method call.path failure.message)
  | .escaped error => .escaped error

structure Session where
  replies : List Reply
  traffic : Traffic
  log : List LogRecord
  deriving Repr, Inhabited

def perform (client : HttpClient) (afterwards : String) (call : Call) (session : Session) :
    Except CallError Json.Node × Session :=
  match call.request client with
  | .error e => (.error (.escaped e), session)
  | .ok request =>
    let (outcome, replies, traffic) :=
      client.exchange afterwards 0 request session.replies session.traffic
    match outcome with
    | .error e => (.error (call.ofExchangeError e), ⟨replies, traffic, session.log⟩)
    | .ok response =>
      let (result, records) := call.handle response
      (result, ⟨replies, traffic, session.log ++ records⟩)

end Call

end ClientWiring
