import ClientWiring.Http.Failure
import ClientWiring.Url.Join
set_option autoImplicit false

/-! The request that follows a response which sends the client elsewhere. -/

namespace ClientWiring.Request

variable [Url.Idna]

def redirectedMethod (method : String) (status : Nat) : String :=
  if (status = 303 ∨ status = 302) ∧ method ≠ "HEAD" then "GET"
  else if status = 301 ∧ method = "POST" then "GET"
  else method

def readableFragment (url : Url) : String :=
  match url.fragment with
  | some fragment =>
    (Text.readReplacing (Text.utf8 false) (Url.decodedBytes fragment.toList)).shown
  | none => ""

/-- The URL that a location names, seen from the URL of the request. A scheme without a host is
given the host of the request, and the fragment is kept where the location has none. -/
def redirectedUrl (request : Request) (location : String) : Except ExchangeError Url := do
  let url ← (Url.parse location).mapError fun e => .request (.invalidLocation e)
  let host ← url.readableHost.mapError fun e => .escaped (.label e)
  let url ←
    if !url.scheme.isEmpty && host.isEmpty then do
      let host ← request.url.readableHost.mapError fun e => .escaped (.label e)
      (url.withHost host).mapError fun e => .escaped (.url e)
    else pure url
  let url ←
    if url.isAbsolute then pure url
    else (Url.join request.url url).mapError fun e => .escaped (.url e)
  if (readableFragment request.url).isEmpty || !(readableFragment url).isEmpty then pure url
  else (url.withFragment (readableFragment request.url)).mapError fun e => .escaped (.url e)

def portOrDefault (url : Url) : Option Int :=
  match url.port with
  | some port => some port
  | none => [("http", 80), ("https", 443)].lookup url.scheme

def sameOrigin (a b : Url) : Except Url.LabelError Bool :=
  if a.scheme != b.scheme then .ok false
  else do
    let hostA ← a.readableHost
    let hostB ← b.readableHost
    pure (hostA == hostB && portOrDefault a == portOrDefault b)

/-- The request that follows a response with a status and a location. A method that changes to the
one without a body drops the body and what describes its length. -/
def redirected (request : Request) (status : Nat) (location : String) :
    Except ExchangeError Request := do
  let method := redirectedMethod request.method status
  let url ← redirectedUrl request location
  let same ← (sameOrigin url request.url).mapError fun e => .escaped (.label e)
  let headers := if same then request.headers else request.headers.set "Host" url.netloc
  if method ≠ request.method ∧ method = "GET" then
    let headers := (headers.erase "Content-Length").erase "Transfer-Encoding"
    let headers ← (completed method url headers []).mapError fun e => .escaped (.label e)
    pure ⟨method, url, headers, []⟩
  else pure ⟨method, url, headers, request.body⟩

end ClientWiring.Request
