import ClientWiring.Http.ContentType
import ClientWiring.Http.Headers
import ClientWiring.Json.Compact
import ClientWiring.Url.Parse
set_option autoImplicit false

/-! Requests and responses. -/

namespace ClientWiring

structure Request where
  method : String
  url : Url
  headers : Headers
  body : List UInt8
  deriving DecidableEq, Repr, Inhabited

structure Response where
  status : Nat
  headers : Headers
  body : List UInt8
  /-- The certificate of the peer, where the connection is secured. -/
  peer : Option Value
  deriving Repr, Inhabited

inductive Content where
  | empty
  | text (text : String)
  | json (value : Value)
  deriving Repr, Inhabited

namespace Content

def bytes (text : String) : List UInt8 :=
  text.toUTF8.toList

def encode [Runtime] : Content → Except Json.CompactError (List UInt8 × Headers)
  | empty => .ok ([], [])
  | text "" => .ok ([], [])
  | text s => .ok (bytes s, [("Content-Length", toString (bytes s).length)])
  | json value => do
    let body := bytes (String.ofList (← Json.compact value))
    pure (body,
      [("Content-Length", toString body.length), ("Content-Type", "application/json")])

end Content

namespace Response

def isError (response : Response) : Bool :=
  400 ≤ response.status && response.status ≤ 599

/-- The kind of the body, as the header fields say. -/
def contentType? (response : Response) : Option String :=
  response.headers.get? "content-type"

def text [BodyReader] (response : Response) : Except Thrown CodePoints :=
  if response.body.isEmpty then .ok []
  else BodyReader.read response.contentType? response.body

/-- Where a response sends the client, if it does. -/
def location? (response : Response) : Option String :=
  if [301, 302, 303, 307, 308].contains response.status then response.headers.get? "location"
  else none

end Response

namespace Request

def bodyMethods : List String := ["POST", "PUT", "PATCH"]

/-- The fields of a request with those that its body and its URL add: what describes the body is
added at the end, the host and an empty length in front. -/
def completed [Url.Idna] (method : String) (url : Url) (headers described : Headers) :
    Except Url.LabelError Headers := do
  let headers := described.foldl (fun headers field => headers.setDefault field.1 field.2) headers
  let host ←
    if headers.has "Host" then pure []
    else do
      let host ← url.readableHost
      pure (if host.isEmpty then [] else [("Host", url.netloc)])
  let length :=
    if bodyMethods.contains method && !headers.has "Content-Length" &&
        !headers.has "Transfer-Encoding" then [("Content-Length", "0")]
    else []
  pure (host ++ length ++ headers)

end Request

end ClientWiring
