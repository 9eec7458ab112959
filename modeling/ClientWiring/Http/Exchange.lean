import ClientWiring.Client.Basic
import ClientWiring.Http.Redirect
set_option autoImplicit false

/-! An exchange: a request goes out after the filters of requests have seen it, the response comes
in and is seen by the verifier and the filters of responses, and a redirect starts the next round.
The network is what answers requests, one after the other. Everything that a hook is shown is
observed. -/

namespace ClientWiring

inductive Reply where
  | response (response : Response)
  | timeout
  /-- The connection fails, with a text. -/
  | broken (text : String)
  /-- Something else fails, with an error of its own. -/
  | thrown (error : Thrown)
  deriving Repr, Inhabited

inductive Sighting where
  | verifier (host : String) (certificate : Value)
  /-- A filter is shown the response, and leaves notes. -/
  | filter (notes : List String)
  deriving Repr, Inhabited

namespace Sighting

def notes : Sighting → List String
  | verifier _ _ => []
  | filter notes => notes

end Sighting

/-- A response that came in, with the request that it answers and what hooks were shown of it. -/
structure Inspection where
  request : Request
  response : Response
  sightings : List Sighting
  deriving Repr, Inhabited

/-- One thing that could be observed of exchanges. -/
inductive Observation where
  /-- Filters were shown a request, and left notes. -/
  | filtered (notes : List String)
  | inspected (inspection : Inspection)
  deriving Repr, Inhabited

namespace Observation

def notes : Observation → List String
  | filtered notes => notes
  | inspected inspection => inspection.sightings.flatMap Sighting.notes

def inspection? : Observation → Option Inspection
  | filtered _ => none
  | inspected inspection => some inspection

end Observation

/-- What could be observed of exchanges: the requests that were sent, and what hooks were shown. -/
structure Traffic where
  sent : List Request
  observations : List Observation
  deriving Repr, Inhabited

namespace Traffic

def notes (traffic : Traffic) : List String :=
  traffic.observations.flatMap Observation.notes

def inspections (traffic : Traffic) : List Inspection :=
  traffic.observations.filterMap Observation.inspection?

def observe (traffic : Traffic) (observation : Observation) : Traffic :=
  { traffic with observations := traffic.observations ++ [observation] }

def send (traffic : Traffic) (request : Request) : Traffic :=
  { traffic with sent := traffic.sent ++ [request] }

end Traffic

namespace HttpClient

def filterRequest (asynchronous : Bool) :
    List RequestFilter → Request → List String → Except Thrown Request × List String
  | [], request, notes => (.ok request, notes)
  | filter :: filters, request, notes =>
    match (filter.heldIn asynchronous).run request.method request.headers with
    | (.error e, more) => (.error e, notes ++ more)
    | (.ok headers, more) =>
      filterRequest asynchronous filters { request with headers := headers } (notes ++ more)

def shownCertificate (certificate : Value) : Value :=
  if certificate.isTruthy then certificate else .dict []

variable [Url.Idna]

/-- What a verifier is shown of the peer of a response to a request: the host of the request and the
certificate. Only a secured connection has a peer to show. -/
def peerView (request : Request) (response : Response) :
    Except Url.LabelError (Option (String × Value)) :=
  match response.peer with
  | none => .ok none
  | some certificate =>
    request.url.readableHost.map fun host => some (host, shownCertificate certificate)

def verifyPeer (verifier : Instance) (request : Request) (response : Response) :
    Except ExchangeError Unit := do
  match ← (peerView request response).mapError fun e => .escaped (.label e) with
  | none => pure ()
  | some (host, certificate) =>
    let verdict ← (verifier.verify host certificate).mapError fun e => .escaped (.thrown e)
    if verdict.isTruthy then pure ()
    else throw (.request (.rejected host verifier.className.short))

def peerSightings (request : Request) (response : Response) : List Sighting :=
  match peerView request response with
  | .ok (some (host, certificate)) => [.verifier host certificate]
  | _ => []

/-- Shows a response to hooks, in their order, until one of them fails, and gathers what they are
shown. -/
def inspectResponse (request : Request) (response : Response) :
    List ResponseHook → Except ExchangeError Unit × List Sighting
  | [] => (.ok (), [])
  | .verify verifier :: hooks =>
    match verifyPeer verifier request response with
    | .error e => (.error e, peerSightings request response)
    | .ok () =>
      let (inspected, sightings) := inspectResponse request response hooks
      (inspected, peerSightings request response ++ sightings)
  | .filter filter :: hooks =>
    match filter.run response.status with
    | (.error e, notes) => (.error (.escaped (.thrown e)), [.filter notes])
    | (.ok (), notes) =>
      let (inspected, sightings) := inspectResponse request response hooks
      (inspected, .filter notes :: sightings)

/-- The response to a request after `hops` redirects, the replies that are left, and the traffic.
When no reply is left, `afterwards` is what happens. -/
def exchange (client : HttpClient) (afterwards : String) (hops : Nat) (request : Request)
    (replies : List Reply) (traffic : Traffic) :
    Except ExchangeError Response × List Reply × Traffic :=
  if client.maxRedirects < hops then (.error (.request .tooManyRedirects), replies, traffic)
  else
    let (filtered, notes) := filterRequest client.asynchronous client.requestHooks request []
    let traffic := traffic.observe (.filtered notes)
    match filtered with
    | .error e => (.error (.escaped (.thrown e)), replies, traffic)
    | .ok request =>
      let traffic := traffic.send request
      match replies with
      | [] => (.error (.request (.broken afterwards)), [], traffic)
      | .timeout :: rest => (.error (.request .timedOut), rest, traffic)
      | .broken text :: rest => (.error (.request (.broken text)), rest, traffic)
      | .thrown e :: rest => (.error (.escaped (.thrown e)), rest, traffic)
      | .response response :: rest =>
        let (inspected, sightings) := inspectResponse request response client.responseHooks
        let traffic := traffic.observe (.inspected ⟨request, response, sightings⟩)
        match inspected with
        | .error e => (.error e, rest, traffic)
        | .ok () =>
          match response.location? with
          | none => (.ok response, rest, traffic)
          | some location =>
            match request.redirected response.status location with
            | .error e => (.error e, rest, traffic)
            | .ok next =>
              if client.followRedirects then
                client.exchange afterwards (hops + 1) next rest traffic
              else (.ok response, rest, traffic)

end HttpClient

end ClientWiring
