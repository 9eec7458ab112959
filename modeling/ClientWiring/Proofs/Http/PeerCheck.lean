import ClientWiring.Client.Call
import ClientWiring.Formats.ContentType
import ClientWiring.Formats.Library
import ClientWiring.Proofs.Client.Building
set_option autoImplicit false

/-! The check of the peer. A client with a verifier shows it every secured response before any
filter sees that response; a response that is refused is shown to no filter and ends the call, and a
call gives a value only if every secured response was accepted. -/

namespace ClientWiring

/-! ### One response -/

namespace Inspection

section Checked

variable [Url.Idna]

/-- What a verifier has to be asked about a response: the host of its own request, and the
certificate of the peer, or an empty one. -/
def asked? (round : Inspection) : Option (String × Value) :=
  match round.response.peer, round.request.url.readableHost with
  | some certificate, .ok host => some (host, HttpClient.shownCertificate certificate)
  | _, _ => none

def Accepted (answer : String → Value → Value) (round : Inspection) : Prop :=
  round.response.peer = none ∨
    ∃ host certificate, round.asked? = some (host, certificate) ∧
      (answer host certificate).isTruthy = true

def Refused (answer : String → Value → Value) (round : Inspection) : Prop :=
  ∃ host certificate, round.asked? = some (host, certificate) ∧
    (answer host certificate).isTruthy = false

structure Guarded (answer : String → Value → Value) (round : Inspection) : Prop where
  /-- The verifier is not asked about a response without a peer. -/
  plain : round.response.peer = none →
    ∃ notes : List (List String), round.sightings = notes.map .filter
  /-- It is asked about any other one first, and only filters follow, unless it refuses. -/
  secured : ∀ host certificate, round.asked? = some (host, certificate) →
    ∃ notes : List (List String),
      round.sightings = .verifier host certificate :: notes.map .filter ∧
        ((answer host certificate).isTruthy = false → notes = [])
  /-- A response whose host cannot be decoded is shown to nobody. -/
  hidden : round.response.peer ≠ none → round.asked? = none → round.sightings = []

theorem asked?_of_plain {round : Inspection} (plain : round.response.peer = none) :
    round.asked? = none := by
  rw [asked?, plain]

theorem secured_of_asked {round : Inspection} {asked : String × Value}
    (asks : round.asked? = some asked) : round.response.peer ≠ none :=
  fun plain => (nomatch asks.symm.trans (asked?_of_plain plain))

/-- The check of a response and its result: the response is guarded, it passes only if it is
accepted, and it fails, by the verifier's name, if it is refused. -/
structure Checked (answer : String → Value → Value) (name : String) (round : Inspection)
    (result : Except ExchangeError Unit) : Prop where
  guarded : round.Guarded answer
  passed : result = .ok () → round.Accepted answer
  failed : round.Refused answer → ∃ host, result = .error (.request (.rejected host name))

variable {answer : String → Value → Value} {name : String} {round : Inspection}
variable {result : Except ExchangeError Unit} {notes : List (List String)}

theorem checked_of_plain (plain : round.response.peer = none)
    (shown : round.sightings = notes.map .filter) : round.Checked answer name result where
  guarded := {
    plain := fun _ => ⟨notes, shown⟩
    secured := fun _ _ asks => absurd plain (secured_of_asked asks)
    hidden := fun secured => absurd plain secured }
  passed := fun _ => .inl plain
  failed := fun ⟨_, _, asks, _⟩ => absurd plain (secured_of_asked asks)

theorem checked_of_hidden {e : ExchangeError} (secured : round.response.peer ≠ none)
    (unasked : round.asked? = none) (shown : round.sightings = []) (ends : result = .error e) :
    round.Checked answer name result where
  guarded := {
    plain := fun plain => absurd plain secured
    secured := fun _ _ asks => (nomatch unasked.symm.trans asks)
    hidden := fun _ _ => shown }
  passed := fun passed => (nomatch ends.symm.trans passed)
  failed := fun ⟨_, _, asks, _⟩ => (nomatch unasked.symm.trans asks)

theorem checked_of_accepted {host : String} {certificate : Value}
    (asks : round.asked? = some (host, certificate))
    (accepts : (answer host certificate).isTruthy = true)
    (shown : round.sightings = .verifier host certificate :: notes.map .filter) :
    round.Checked answer name result where
  guarded := {
    plain := fun plain => absurd plain (secured_of_asked asks)
    secured := by
      intro _ _ same
      cases asks.symm.trans same
      exact ⟨notes, shown, fun refuses => (nomatch accepts.symm.trans refuses)⟩
    hidden := fun _ unasked => (nomatch asks.symm.trans unasked) }
  passed := fun _ => .inr ⟨host, certificate, asks, accepts⟩
  failed := by
    rintro ⟨_, _, same, refuses⟩
    cases asks.symm.trans same
    cases accepts.symm.trans refuses

theorem checked_of_refused {host : String} {certificate : Value}
    (asks : round.asked? = some (host, certificate))
    (shown : round.sightings = [.verifier host certificate])
    (ends : result = .error (.request (.rejected host name))) :
    round.Checked answer name result where
  guarded := {
    plain := fun plain => absurd plain (secured_of_asked asks)
    secured := by
      intro _ _ same
      cases asks.symm.trans same
      exact ⟨[], shown, fun _ => rfl⟩
    hidden := fun _ unasked => (nomatch asks.symm.trans unasked) }
  passed := fun passed => (nomatch ends.symm.trans passed)
  failed := fun _ => ⟨host, ends⟩

end Checked

end Inspection

namespace HttpClient

section Verifier

variable [Url.Idna]

/-- Filters leave notes and see nothing else. -/
theorem inspectResponse_filters (request : Request) (response : Response)
    (filters : List ResponseFilter) :
    ∃ notes : List (List String),
      (inspectResponse request response (filters.map .filter)).2 = notes.map .filter := by
  induction filters with
  | nil => exact ⟨[], rfl⟩
  | cons filter rest ih =>
      obtain ⟨notes, same⟩ := ih
      rw [List.map_cons, inspectResponse]
      rcases filter.run response.status with ⟨_ | _, more⟩
      · exact ⟨[more], rfl⟩
      · exact ⟨more :: notes, congrArg (List.cons _) same⟩

variable {verifier : Instance} {answer : String → Value → Value}
variable (answers : ∀ host certificate,
  verifier.verify host certificate = .ok (answer host certificate))
variable (request : Request) (response : Response) (filters : List ResponseFilter)

include answers

theorem verifyPeer_eq :
    verifyPeer verifier request response =
      match peerView request response with
      | .error e => .error (.escaped (.label e))
      | .ok none => .ok ()
      | .ok (some (host, certificate)) =>
        if (answer host certificate).isTruthy then .ok ()
        else .error (.request (.rejected host verifier.className.short)) := by
  unfold verifyPeer
  rcases peerView request response with e | _ | ⟨host, certificate⟩
  · rfl
  · rfl
  · change ((verifier.verify host certificate).mapError _ >>= _) = _
    rw [answers]
    rfl

/-- What a verifier in front of filters makes of a response: it is not asked without a peer, the
host may be unreadable, and otherwise its answer decides. -/
theorem inspectResponse_verify :
    inspectResponse request response (.verify verifier :: filters.map .filter) =
      match peerView request response with
      | .error e => (.error (.escaped (.label e)), [])
      | .ok none => inspectResponse request response (filters.map .filter)
      | .ok (some (host, certificate)) =>
        if (answer host certificate).isTruthy then
          ((inspectResponse request response (filters.map .filter)).1,
            .verifier host certificate ::
              (inspectResponse request response (filters.map .filter)).2)
        else (.error (.request (.rejected host verifier.className.short)),
          [.verifier host certificate]) := by
  rw [inspectResponse, verifyPeer_eq answers, peerSightings]
  rcases peerView request response with e | _ | ⟨host, certificate⟩
  · rfl
  · rfl
  · dsimp only
    cases (answer host certificate).isTruthy <;> rfl

/-- A verifier in front of filters checks every response. -/
theorem inspectResponse_checked :
    Inspection.Checked answer verifier.className.short
      ⟨request, response,
        (inspectResponse request response (.verify verifier :: filters.map .filter)).2⟩
      (inspectResponse request response (.verify verifier :: filters.map .filter)).1 := by
  obtain ⟨notes, shown⟩ := inspectResponse_filters request response filters
  rw [inspectResponse_verify answers, shown, peerView]
  cases peer : response.peer with
  | none => exact Inspection.checked_of_plain peer shown
  | some given =>
      have secured : response.peer ≠ none := fun plain => (nomatch peer.symm.trans plain)
      dsimp only
      cases host : request.url.readableHost with
      | error e =>
          refine Inspection.checked_of_hidden secured ?_ rfl rfl
          rw [Inspection.asked?, peer, host]
      | ok name =>
          have asks : ∀ sightings, Inspection.asked? ⟨request, response, sightings⟩ =
              some (name, shownCertificate given) := by
            intro sightings
            rw [Inspection.asked?, peer, host]
          dsimp only [Except.map]
          cases verdict : (answer name (shownCertificate given)).isTruthy with
          | true => exact Inspection.checked_of_accepted (asks _) verdict rfl
          | false => exact Inspection.checked_of_refused (asks _) rfl rfl

end Verifier

end HttpClient

/-! ### An exchange of any number of responses -/

namespace Traffic

@[simp] theorem inspections_filtered (traffic : Traffic) (notes : List String) :
    (traffic.observe (.filtered notes)).inspections = traffic.inspections := by
  simp [observe, inspections, Observation.inspection?]

@[simp] theorem inspections_inspected (traffic : Traffic) (round : Inspection) :
    (traffic.observe (.inspected round)).inspections = traffic.inspections ++ [round] := by
  simp [observe, inspections, Observation.inspection?]

@[simp] theorem inspections_send (traffic : Traffic) (request : Request) :
    (traffic.send request).inspections = traffic.inspections := rfl

@[simp] theorem sent_observe (traffic : Traffic) (observation : Observation) :
    (traffic.observe observation).sent = traffic.sent := rfl

@[simp] theorem sent_send (traffic : Traffic) (request : Request) :
    (traffic.send request).sent = traffic.sent ++ [request] := rfl

end Traffic

/-- A verifier supervises the responses that come in: these are rounds of a request that was sent and
the next reply, each is guarded, a refused one fails what is done, and there is a result only if all
are accepted. -/
structure Supervised [Url.Idna] {ε α : Type} (answer : String → Value → Value) (rejection : ε → Prop)
    (replies left : List Reply) (before after : Traffic) (result : Except ε α)
    (rounds : List Inspection) : Prop where
  inspected : after.inspections = before.inspections ++ rounds
  /-- At most one reply, the last, brings no response. -/
  heard : ∃ silent : List Reply,
    replies = rounds.map (fun round => .response round.response) ++ silent ++ left ∧
      silent.length ≤ 1 ∧ (∀ response, .response response ∉ silent) ∧
      ∀ a, result = .ok a → silent = []
  /-- At most one request, the last, is sent without a response. -/
  sent : ∃ unanswered : List Request,
    after.sent = before.sent ++ rounds.map (·.request) ++ unanswered ∧ unanswered.length ≤ 1
  guarded : ∀ round ∈ rounds, round.Guarded answer
  refused : ∀ round ∈ rounds, round.Refused answer → ∃ e, result = .error e ∧ rejection e
  accepted : ∀ a, result = .ok a → ∀ round ∈ rounds, round.Accepted answer

namespace Supervised

variable [Url.Idna] {ε α : Type} {answer : String → Value → Value} {rejection : ε → Prop}
variable {replies left : List Reply} {before after : Traffic} {result : Except ε α}

theorem of_silence (silent : List Reply) (unanswered : List Request) {e : ε}
    (inspected : after.inspections = before.inspections)
    (heard : replies = silent ++ left) (short : silent.length ≤ 1)
    (silence : ∀ response, .response response ∉ silent)
    (sent : after.sent = before.sent ++ unanswered) (few : unanswered.length ≤ 1) :
    Supervised answer rejection replies left before after (.error e : Except ε α) [] where
  inspected := by rw [inspected, List.append_nil]
  heard := ⟨silent, heard, short, silence, nofun⟩
  sent := ⟨unanswered, by rw [sent, List.map_nil, List.append_nil], few⟩
  guarded := nofun
  refused := nofun
  accepted := nofun

theorem of_unsent {e : ε} (inspected : after.inspections = before.inspections)
    (sent : after.sent = before.sent) :
    Supervised answer rejection left left before after (.error e : Except ε α) [] :=
  of_silence [] [] inspected rfl (Nat.zero_le 1) nofun (by rw [sent, List.append_nil])
    (Nat.zero_le 1)

theorem of_unheard {reply : Reply} {e : ε} (request : Request)
    (inspected : after.inspections = before.inspections)
    (sent : after.sent = before.sent ++ [request])
    (silence : ∀ response, reply ≠ .response response) :
    Supervised answer rejection (reply :: left) left before after (.error e : Except ε α) [] := by
  refine of_silence [reply] [request] inspected rfl (Nat.le_refl 1) ?_ sent (Nat.le_refl 1)
  intro response member
  exact silence response (List.mem_singleton.mp member).symm

theorem cons {name : String} {round : Inspection} {middle : Traffic} {rounds : List Inspection}
    (checked : round.Checked answer name (.ok ()))
    (inspected : middle.inspections = before.inspections ++ [round])
    (sent : middle.sent = before.sent ++ [round.request])
    (rest : Supervised answer rejection replies left middle after result rounds) :
    Supervised answer rejection (.response round.response :: replies) left before after result
      (round :: rounds) where
  inspected := by rw [rest.inspected, inspected, List.append_assoc, List.singleton_append]
  heard := by
    obtain ⟨silent, heard, others⟩ := rest.heard
    refine ⟨silent, ?_, others⟩
    rw [heard]
    rfl
  sent := by
    obtain ⟨unanswered, more, few⟩ := rest.sent
    refine ⟨unanswered, ?_, few⟩
    rw [more, sent, List.map_cons]
    simp only [List.append_assoc, List.cons_append, List.nil_append]
  guarded := List.forall_mem_cons.mpr ⟨checked.guarded, rest.guarded⟩
  refused := by
    refine List.forall_mem_cons.mpr ⟨fun refused => ?_, rest.refused⟩
    obtain ⟨host, failed⟩ := checked.failed refused
    cases failed
  accepted := fun a succeeded =>
    List.forall_mem_cons.mpr ⟨checked.passed rfl, rest.accepted a succeeded⟩

theorem single {name : String} {round : Inspection} {check : Except ExchangeError Unit}
    (checked : round.Checked answer name check)
    (inspected : after.inspections = before.inspections ++ [round])
    (sent : after.sent = before.sent ++ [round.request])
    (passed : ∀ a, result = .ok a → check = .ok ())
    (failed : ∀ host, check = .error (.request (.rejected host name)) →
      ∃ e, result = .error e ∧ rejection e) :
    Supervised answer rejection (.response round.response :: left) left before after result
      [round] where
  inspected := inspected
  heard := ⟨[], rfl, Nat.zero_le 1, nofun, fun _ _ => rfl⟩
  sent := ⟨[], by rw [sent, List.append_nil]; rfl, Nat.zero_le 1⟩
  guarded := List.forall_mem_singleton.mpr checked.guarded
  refused := by
    refine List.forall_mem_singleton.mpr fun refused => ?_
    obtain ⟨host, failure⟩ := checked.failed refused
    exact failed host failure
  accepted := fun a succeeded => List.forall_mem_singleton.mpr (checked.passed (passed a succeeded))

end Supervised

namespace HttpClient

/-- A client whose first response hook is its verifier, and the others are filters, supervises every
exchange: by induction on the replies, as each response is one of them. -/
theorem exchange_supervised [Url.Idna] {client : HttpClient} {verifier : Instance}
    {answer : String → Value → Value} {filters : List ResponseFilter}
    (answers : ∀ host certificate, verifier.verify host certificate = .ok (answer host certificate))
    (hooks : client.responseHooks = .verify verifier :: filters.map .filter)
    (afterwards : String) (replies : List Reply) (hops : Nat) (request : Request)
    (traffic : Traffic) :
    let done := client.exchange afterwards hops request replies traffic
    ∃ rounds, Supervised answer
      (fun e => ∃ host, e = .request (.rejected host verifier.className.short))
      replies done.2.1 traffic done.2.2 done.1 rounds := by
  induction replies generalizing hops request traffic with
  | nil =>
      unfold exchange
      by_cases exceeded : client.maxRedirects < hops
      · rw [if_pos exceeded]
        exact ⟨[], .of_unsent rfl rfl⟩
      rw [if_neg exceeded]
      rcases filterRequest client.asynchronous client.requestHooks request [] with
        ⟨e | request, notes⟩
      · exact ⟨[], .of_unsent (by simp) rfl⟩
      · exact ⟨[], .of_silence [] [request] (by simp) rfl (Nat.zero_le 1) nofun (by simp)
          (Nat.le_refl 1)⟩
  | cons reply rest ih =>
      unfold exchange
      by_cases exceeded : client.maxRedirects < hops
      · rw [if_pos exceeded]
        exact ⟨[], .of_unsent rfl rfl⟩
      rw [if_neg exceeded]
      rcases filterRequest client.asynchronous client.requestHooks request [] with
        ⟨e | request, notes⟩
      · exact ⟨[], .of_unsent (by simp) rfl⟩
      cases reply with
      | timeout => exact ⟨[], .of_unheard request (by simp) (by simp) nofun⟩
      | broken text => exact ⟨[], .of_unheard request (by simp) (by simp) nofun⟩
      | thrown e => exact ⟨[], .of_unheard request (by simp) (by simp) nofun⟩
      | response response =>
          dsimp only
          have checked := inspectResponse_checked answers request response filters
          rw [← hooks] at checked
          rcases inspected : inspectResponse request response client.responseHooks with
            ⟨e | ⟨⟩, sightings⟩
          · rw [inspected] at checked
            refine ⟨_, .single checked (by simp) (by simp) nofun ?_⟩
            rintro host ⟨⟩
            exact ⟨_, rfl, host, rfl⟩
          rw [inspected] at checked
          dsimp only
          cases response.location? with
          | none => exact ⟨_, .single checked (by simp) (by simp) (fun _ _ => rfl) nofun⟩
          | some location =>
              dsimp only
              cases request.redirected response.status location with
              | error e => exact ⟨_, .single checked (by simp) (by simp) nofun nofun⟩
              | ok next =>
                  dsimp only
                  -- Only here the exchange goes on, and with one reply less.
                  split
                  · obtain ⟨rounds, more⟩ := ih (hops + 1) next _
                    exact ⟨_, .cons checked (by simp) (by simp) more⟩
                  · exact ⟨_, .single checked (by simp) (by simp) (fun _ _ => rfl) nofun⟩

end HttpClient

/-! ### A call -/

/-- What is made of a result keeps the supervision, if it has a value only where the result has one,
and tells of a rejection. -/
theorem Supervised.of_result [Url.Idna] {ε ε' α α' : Type} {answer : String → Value → Value}
    {rejection : ε → Prop} {rejection' : ε' → Prop} {replies left : List Reply}
    {before after : Traffic} {result : Except ε α} {result' : Except ε' α'}
    {rounds : List Inspection}
    (supervised : Supervised answer rejection replies left before after result rounds)
    (succeeds : ∀ a', result' = .ok a' → ∃ a, result = .ok a)
    (rejects : ∀ e, result = .error e → rejection e → ∃ e', result' = .error e' ∧ rejection' e') :
    Supervised answer rejection' replies left before after result' rounds where
  inspected := supervised.inspected
  heard := by
    obtain ⟨silent, heard, short, others, succeeded⟩ := supervised.heard
    refine ⟨silent, heard, short, others, fun a' same => ?_⟩
    obtain ⟨a, result⟩ := succeeds a' same
    exact succeeded a result
  sent := supervised.sent
  guarded := supervised.guarded
  refused := by
    intro round member refused
    obtain ⟨e, failed, rejected⟩ := supervised.refused round member refused
    exact rejects e failed rejected
  accepted := by
    intro a' same
    obtain ⟨a, result⟩ := succeeds a' same
    exact supervised.accepted a result

/-- A client that is built with a verifier supervises every call, whatever its filters and the
replies are: the verifier is asked about every secured response first, a refused response is shown to
no filter and fails the call, and a call with a value has had accepted responses only. -/
theorem Call.perform_supervised [UrlReader] [TlsLibrary] [Runtime] [BodyReader]
    (builder : HttpClientBuilder) (interface : ClientInterface)
    (client : HttpClient) (verifier : Instance) (answer : String → Value → Value)
    (afterwards : String) (call : Call) (session : Call.Session)
    (installed : builder.verifier = some verifier)
    (answers : ∀ host certificate, verifier.verify host certificate = .ok (answer host certificate))
    (built : builder.build interface = .ok client) :
    let outcome := call.perform client afterwards session
    ∃ rounds, Supervised answer
      (fun e => ∃ host, e = CallError.client (.failed call.method call.path
        (RequestFailure.rejected host verifier.className.short).message))
      session.replies outcome.2.replies session.traffic outcome.2.traffic outcome.1 rounds := by
  have hooks : client.responseHooks =
      .verify verifier :: builder.responseFilters.map .filter := by
    rw [(HttpClientBuilder.builds_of_build built).responseHooks_eq,
      HttpClientBuilder.responseHooks, installed]
  unfold Call.perform
  cases call.request client with
  | error e =>
      exact ⟨[], .of_unsent rfl rfl⟩
  | ok request =>
      dsimp only
      obtain ⟨rounds, supervised⟩ := HttpClient.exchange_supervised answers hooks afterwards
        session.replies 0 request session.traffic
      refine ⟨rounds, ?_⟩
      rcases done : client.exchange afterwards 0 request session.replies session.traffic with
        ⟨e | response, left, after⟩
      · rw [done] at supervised
        refine supervised.of_result nofun ?_
        rintro _ ⟨⟩ ⟨host, rfl⟩
        exact ⟨_, rfl, host, rfl⟩
      · rw [done] at supervised
        exact supervised.of_result (fun _ _ => ⟨response, rfl⟩) nofun

def refusing : Instance :=
  ⟨⟨"acme", ["Refusing"]⟩, none, none, .function fun _ _ => .ok (.bool false)⟩

def refusingBuilder : HttpClientBuilder :=
  { HttpClientBuilder.fresh false with
    baseUrl := some "https://localhost"
    providers := [⟨⟨"acme", ["Status"]⟩, none,
      some ⟨false, fun status => (.ok (), [toString status])⟩, .absent⟩]
    verifier := some refusing }

open scoped Sample in
theorem Call.perform_supervised_refusing :
    ∃ client rounds,
      refusingBuilder.build default = .ok client ∧
      let session : Call.Session := ⟨[.response ⟨200, [], [], some .null⟩], ⟨[], []⟩, []⟩
      let outcome := (⟨"GET", "/", [], [], .empty⟩ : Call).perform client "" session
      Supervised (fun _ _ => .bool false)
        (fun e => ∃ host, e = CallError.client (.failed "GET" "/"
          (RequestFailure.rejected host "Refusing").message))
        session.replies outcome.2.replies session.traffic outcome.2.traffic outcome.1 rounds := by
  have succeeds : (refusingBuilder.build default).toBool = true := by
    decide +kernel
  cases built : refusingBuilder.build default with
  | error e =>
      rw [built] at succeeds
      cases succeeds
  | ok client =>
      obtain ⟨rounds, supervised⟩ := Call.perform_supervised refusingBuilder default client refusing
        (fun _ _ => .bool false) "" ⟨"GET", "/", [], [], .empty⟩
        ⟨[.response ⟨200, [], [], some .null⟩], ⟨[], []⟩, []⟩ rfl (fun _ _ => rfl) built
      exact ⟨client, rounds, rfl, supervised⟩

def undecodableBuilder : HttpClientBuilder :=
  { HttpClientBuilder.fresh false with
    baseUrl := some "https://xn--zz"
    verifier := some ⟨⟨"acme", ["Accepting"]⟩, none, none,
      .function fun _ _ => .ok (.bool true)⟩ }

open scoped Sample in
/-- A call that names a host itself is sent although the host of its URL cannot be decoded. The
secured response that comes in is then shown to nobody: the verifier is not asked. -/
theorem Call.perform_unasked :
    ∃ client round,
      undecodableBuilder.build default = .ok client ∧
      ((⟨"GET", "/", [], [("Host", "localhost")], .empty⟩ : Call).perform client ""
        ⟨[.response ⟨200, [], [], some .null⟩], ⟨[], []⟩, []⟩).2.traffic.inspections = [round] ∧
      round.response.peer.isSome ∧ round.sightings = [] := by
  have shown : (undecodableBuilder.build default).toOption.map (fun client =>
      ((⟨"GET", "/", [], [("Host", "localhost")], .empty⟩ : Call).perform client ""
        ⟨[.response ⟨200, [], [], some .null⟩], ⟨[], []⟩, []⟩).2.traffic.inspections.map
          fun round => (round.response.peer.isSome, round.sightings.length)) =
      some [(true, 0)] := by
    decide +kernel
  cases built : undecodableBuilder.build default with
  | error e =>
      rw [built] at shown
      cases shown
  | ok client =>
      rw [built] at shown
      obtain ⟨round, heard, same⟩ := List.map_eq_singleton_iff.mp (Option.some.inj shown)
      obtain ⟨secured, unseen⟩ := Prod.mk.inj same
      exact ⟨client, round, rfl, heard, secured, List.length_eq_zero_iff.mp unseen⟩

end ClientWiring
