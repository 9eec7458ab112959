import ClientWiring.Http.Exchange
import ClientWiring.Proofs.Client.Told
set_option autoImplicit false

/-! The hooks of a built client. They are the filters of the registered providers in the order of
registration, with the verifier in front of those that see responses. Running them is running their
functions in turn up to the first that fails, in a synchronous client as in one that awaits them; a
coroutine function takes part where it is awaited. -/

namespace ClientWiring

/-! ### Functions in turn -/

/-- Functions that run on a state one after the other, up to the first that fails. Each has effects,
also the one that fails. -/
inductive InTurn {φ σ ε ω : Type} (deed : φ → σ → Except ε σ × List ω) :
    List φ → σ → Except ε σ → List ω → Prop
  | done (state : σ) : InTurn deed [] state (.ok state) []
  | next {function : φ} {rest : List φ} {state middle : σ} {result : Except ε σ}
      {effects more : List ω} (ran : deed function state = (.ok middle, effects))
      (later : InTurn deed rest middle result more) :
      InTurn deed (function :: rest) state result (effects ++ more)
  | stopped {function : φ} {rest : List φ} {state : σ} {e : ε} {effects : List ω}
      (failed : deed function state = (.error e, effects)) :
      InTurn deed (function :: rest) state (.error e) effects

theorem InTurn.unique {φ σ ε ω : Type} {deed : φ → σ → Except ε σ × List ω} {functions : List φ}
    {state : σ} {result other : Except ε σ} {effects others : List ω}
    (first : InTurn deed functions state result effects)
    (second : InTurn deed functions state other others) :
    result = other ∧ effects = others := by
  induction first generalizing other others with
  | done state =>
      cases second
      exact ⟨rfl, rfl⟩
  | next ran _ ih =>
      cases second with
      | next again later =>
          cases ran.symm.trans again
          obtain ⟨same, alike⟩ := ih later
          exact ⟨same, congrArg _ alike⟩
      | stopped failed => cases ran.symm.trans failed
  | stopped failed =>
      cases second with
      | next ran _ => cases failed.symm.trans ran
      | stopped again =>
          cases failed.symm.trans again
          exact ⟨rfl, rfl⟩

def RequestFilter.deed (filter : RequestFilter) (request : Request) :
    Except Thrown Request × List String :=
  let (result, notes) := filter.run request.method request.headers
  (result.map fun headers => { request with headers := headers }, notes)

def ResponseHook.deed [Url.Idna] (request : Request) (response : Response) (hook : ResponseHook)
    (_ : Unit) : Except ExchangeError Unit × List Sighting :=
  match hook with
  | .verify verifier =>
    (HttpClient.verifyPeer verifier request response, HttpClient.peerSightings request response)
  | .filter responseFilter =>
    let (result, notes) := responseFilter.run response.status
    (result.mapError fun e => .escaped (.thrown e), [.filter notes])

namespace HttpClient

theorem filterRequest_inTurn {asynchronous : Bool} {filters : List RequestFilter}
    (awaited : ∀ filter ∈ filters, asynchronous = true ∨ filter.asynchronous = false)
    (request : Request) (notes : List String) :
    ∃ result more, filterRequest asynchronous filters request notes = (result, notes ++ more) ∧
      InTurn RequestFilter.deed filters request result more := by
  induction filters generalizing request notes with
  | nil => exact ⟨.ok request, [], by rw [List.append_nil]; rfl, .done request⟩
  | cons filter rest ih =>
      have later : ∀ filter ∈ rest, asynchronous = true ∨ filter.asynchronous = false :=
        fun filter member => awaited filter (List.mem_cons_of_mem _ member)
      rw [filterRequest, RequestFilter.heldIn_eq_self (awaited filter List.mem_cons_self)]
      rcases ran : filter.run request.method request.headers with ⟨e | headers, effects⟩
      · refine ⟨.error e, effects, rfl, .stopped ?_⟩
        rw [RequestFilter.deed, ran]
        rfl
      · obtain ⟨result, more, rest, inTurn⟩ :=
          ih later { request with headers := headers } (notes ++ effects)
        refine ⟨result, effects ++ more, ?_, .next ?_ inTurn⟩
        · rw [← List.append_assoc]
          exact rest
        · rw [RequestFilter.deed, ran]
          rfl

variable [Url.Idna]

theorem inspectResponse_inTurn (request : Request) (response : Response)
    (hooks : List ResponseHook) :
    InTurn (ResponseHook.deed request response) hooks ()
      (inspectResponse request response hooks).1 (inspectResponse request response hooks).2 := by
  induction hooks with
  | nil => exact .done ()
  | cons hook rest ih =>
      cases hook with
      | verify verifier =>
          cases checked : verifyPeer verifier request response with
          | error e =>
              rw [inspectResponse, checked]
              apply InTurn.stopped
              rw [ResponseHook.deed, checked]
          | ok _ =>
              rw [inspectResponse, checked]
              refine .next ?_ ih
              rw [ResponseHook.deed, checked]
      | filter filter =>
          rcases ran : filter.run response.status with ⟨e | ⟨⟩, notes⟩
          · rw [inspectResponse, ran]
            apply InTurn.stopped
            rw [ResponseHook.deed, ran]
            rfl
          · have passed : ResponseHook.deed request response (.filter filter) () =
                (.ok (), [.filter notes]) := by
              rw [ResponseHook.deed, ran]
              rfl
            rw [inspectResponse, ran]
            exact .next passed ih

/-- To show a client a message is to run these functions in turn, filters on a request and hooks on a
response to one. -/
structure RunsInTurn (client : HttpClient) (filters : List RequestFilter)
    (hooks : List ResponseHook) : Prop where
  requests (request : Request) :
    let filtered := filterRequest client.asynchronous client.requestHooks request []
    InTurn RequestFilter.deed filters request filtered.1 filtered.2
  responses (request : Request) (response : Response) :
    let inspected := inspectResponse request response client.responseHooks
    InTurn (ResponseHook.deed request response) hooks () inspected.1 inspected.2

/-- Two clients treat every message alike: the effects are the same and so is the result. -/
structure TreatsAlike (client other : HttpClient) : Prop where
  requests (request : Request) :
    filterRequest client.asynchronous client.requestHooks request [] =
      filterRequest other.asynchronous other.requestHooks request []
  responses (request : Request) (response : Response) :
    inspectResponse request response client.responseHooks =
      inspectResponse request response other.responseHooks

theorem RunsInTurn.treatsAlike {client other : HttpClient} {filters : List RequestFilter}
    {hooks : List ResponseHook} (first : client.RunsInTurn filters hooks)
    (second : other.RunsInTurn filters hooks) : client.TreatsAlike other where
  requests request := by
    obtain ⟨result, notes⟩ := (first.requests request).unique (second.requests request)
    exact Prod.ext result notes
  responses request response := by
    obtain ⟨result, sightings⟩ :=
      (first.responses request response).unique (second.responses request response)
    exact Prod.ext result sightings

end HttpClient

/-! ### What a builder has been told -/

def BuilderCall.registered? : BuilderCall → Option (Except Thrown Instance)
  | .register info => some info.construct
  | .registerInstance object => some (.ok object)
  | _ => none

def BuilderCall.verifier? : BuilderCall → Option Instance
  | .hostnameVerifier verifier => some verifier
  | _ => none

/-- All that the given kind of client awaits or calls of a provider are functions that run then. -/
def Instance.RunsIn (asynchronous : Bool) (object : Instance) : Prop :=
  (∀ filter, object.requestFilter = some filter →
    asynchronous = true ∨ filter.asynchronous = false) ∧
  ∀ filter, object.responseFilter = some filter →
    asynchronous = true ∨ filter.asynchronous = false

theorem Instance.RunsIn.everywhere {object : Instance} (plain : object.RunsIn false)
    (asynchronous : Bool) : object.RunsIn asynchronous := by
  obtain ⟨request, response⟩ := plain
  constructor
  · intro filter has
    exact .inr ((request filter has).resolve_left Bool.false_ne_true)
  · intro filter has
    exact .inr ((response filter has).resolve_left Bool.false_ne_true)

namespace HttpClientBuilder

theorem responseFilters_held {asynchronous : Bool} {providers : List Instance}
    (run : ∀ provider ∈ providers, provider.RunsIn asynchronous) :
    ((providers.filterMap (·.responseFilter)).map fun filter =>
      ResponseHook.filter (filter.heldIn asynchronous)) =
      (providers.filterMap (·.responseFilter)).map .filter := by
  apply List.map_congr_left
  intro filter member
  obtain ⟨provider, listed, has⟩ := List.mem_filterMap.mp member
  rw [ResponseFilter.heldIn_eq_self ((run provider listed).2 filter has)]

/-- Where a client awaits or calls its functions, its hooks are these functions in turn. -/
theorem runsInTurn_of_hooks [Url.Idna] {client : HttpClient} {verifier : Option Instance}
    {providers : List Instance}
    (requests : client.requestHooks = providers.filterMap (·.requestFilter))
    (responses : client.responseHooks = verifier.toList.map .verify ++
      (providers.filterMap (·.responseFilter)).map fun filter =>
        .filter (filter.heldIn client.asynchronous))
    (run : ∀ provider ∈ providers, provider.RunsIn client.asynchronous) :
    client.RunsInTurn (providers.filterMap (·.requestFilter))
      (verifier.toList.map .verify ++ (providers.filterMap (·.responseFilter)).map .filter) where
  requests request := by
    have awaited : ∀ filter ∈ client.requestHooks,
        client.asynchronous = true ∨ filter.asynchronous = false := by
      intro filter member
      rw [requests] at member
      obtain ⟨provider, listed, has⟩ := List.mem_filterMap.mp member
      exact (run provider listed).1 filter has
    obtain ⟨result, notes, ran, inTurn⟩ := HttpClient.filterRequest_inTurn awaited request []
    have same : HttpClient.filterRequest client.asynchronous client.requestHooks request [] =
        (result, notes) := ran
    rw [same, ← requests]
    exact inTurn
  responses request response := by
    rw [← responseFilters_held run, ← responses]
    exact HttpClient.inspectResponse_inTurn request response client.responseHooks

section Calls

variable [UrlReader] [TlsLibrary]

theorem apply_keeps {call : BuilderCall} {builder told : HttpClientBuilder}
    (taken : ClientBuilder.apply call builder = .ok told) :
    told.asynchronous = builder.asynchronous ∧
    told.verifier = call.verifier?.or builder.verifier ∧
    ∃ objects : List Instance,
      call.registered?.toList = objects.map .ok ∧
      told.providers = builder.providers ++ objects := by
  cases call with
  | register info =>
      obtain ⟨object, made, rfl⟩ := exists_instance_of_apply taken
      exact ⟨rfl, rfl, [object], by rw [BuilderCall.registered?, made]; rfl, rfl⟩
  | registerInstance object =>
      cases taken
      exact ⟨rfl, rfl, [object], rfl, rfl⟩
  | _ =>
      cases taken
      exact ⟨rfl, rfl, [], rfl, (List.append_nil _).symm⟩

/-- After any calls a builder has the providers that were registered, in order, and the verifier that
was named last. -/
theorem outcome_keeps {calls : List BuilderCall} {builder told : HttpClientBuilder}
    (carried : Plan.outcome (calls.map .ok) builder = (.ok (), told)) :
    told.asynchronous = builder.asynchronous ∧
    told.verifier = (calls.reverse.findSome? BuilderCall.verifier?).or builder.verifier ∧
    ∃ objects : List Instance,
      calls.filterMap BuilderCall.registered? = objects.map .ok ∧
      told.providers = builder.providers ++ objects := by
  induction calls generalizing builder with
  | nil =>
      obtain rfl := (Prod.mk.inj carried).2
      exact ⟨rfl, rfl, [], rfl, (List.append_nil _).symm⟩
  | cons call rest ih =>
      obtain ⟨next, answer, carried⟩ := Plan.exists_next_of_outcome carried
      obtain ⟨kind, verifier, objects, made, providers⟩ := apply_keeps answer
      obtain ⟨sameKind, last, others, more, all⟩ := ih carried
      refine ⟨sameKind.trans kind, ?_, objects ++ others, ?_, ?_⟩
      · rw [last, verifier, List.reverse_cons, List.findSome?_append,
          List.findSome?_singleton, Option.or_assoc]
      · rw [List.map_append, ← made, ← more, List.filterMap_cons]
        cases call.registered? <;> rfl
      · rw [all, providers, List.append_assoc]

/-- The kind of client matters to no call. -/
theorem outcome_asynchronous {calls : List BuilderCall} {builder told : HttpClientBuilder}
    (carried : Plan.outcome (calls.map .ok) builder = (.ok (), told)) (asynchronous : Bool) :
    Plan.outcome (calls.map .ok) { builder with asynchronous := asynchronous } =
      (.ok (), { told with asynchronous := asynchronous }) := by
  induction calls generalizing builder with
  | nil =>
      obtain rfl := (Prod.mk.inj carried).2
      rfl
  | cons call rest ih =>
      rw [List.map_cons, Plan.outcome_ok] at carried ⊢
      cases call with
      | register info =>
          rw [apply_register] at carried ⊢
          cases made : info.construct with
          | error thrown =>
              rw [made] at carried
              cases carried
          | ok object =>
              rw [made] at carried
              exact ih carried
      | _ => exact ih carried

def clientOf (calls : List BuilderCall) (asynchronous : Bool) (interface : ClientInterface) :
    Except WiringError HttpClient :=
  match Plan.outcome (calls.map .ok) (fresh asynchronous) with
  | (.error e, _) => .error e
  | (.ok (), told) => told.build interface

theorem clientOf_eq_ok {calls : List BuilderCall} {asynchronous : Bool}
    {interface : ClientInterface} {client : HttpClient}
    (built : clientOf calls asynchronous interface = .ok client) :
    ∃ told, Plan.outcome (calls.map .ok) (fresh asynchronous) = (.ok (), told) ∧
      told.build interface = .ok client := by
  rcases carried : Plan.outcome (calls.map .ok) (fresh asynchronous) with ⟨e | _, told⟩
  · rw [clientOf, carried] at built
    cases built
  · rw [clientOf, carried] at built
    exact ⟨told, rfl, built⟩

theorem clientOf_other {calls : List BuilderCall} {asynchronous : Bool}
    {interface : ClientInterface} {client : HttpClient}
    (built : clientOf calls asynchronous interface = .ok client) (other : Bool) :
    ∃ another, clientOf calls other interface = .ok another := by
  obtain ⟨told, carried, built⟩ := clientOf_eq_ok built
  have buildable := buildable_of_builds (builds_of_build built)
  have again : ({ told with asynchronous := other } : HttpClientBuilder).Buildable :=
    ⟨buildable.timeouts, buildable.tls, buildable.limits, buildable.maxRedirects,
      buildable.baseUrl, buildable.proxy⟩
  obtain ⟨text, url, named, -⟩ := buildable.baseUrl
  have same : Plan.outcome (calls.map .ok) (fresh other) =
      (.ok (), { told with asynchronous := other }) := outcome_asynchronous carried other
  rw [clientOf, same]
  rcases build_cases { told with asynchronous := other } interface named with
    ⟨another, succeeds, -⟩ | ⟨e, -, refused, -⟩
  · exact ⟨another, succeeds⟩
  · exact absurd again refused

/-- The hooks that a client has after calls: the functions that its providers were registered with. -/
theorem hooks_of_clientOf {calls : List BuilderCall} {asynchronous : Bool}
    {interface : ClientInterface} {client : HttpClient}
    (built : clientOf calls asynchronous interface = .ok client) :
    client.asynchronous = asynchronous ∧
    ∃ providers : List Instance,
      calls.filterMap BuilderCall.registered? = providers.map .ok ∧
      client.requestHooks = providers.filterMap (·.requestFilter) ∧
      client.responseHooks =
        (calls.reverse.findSome? BuilderCall.verifier?).toList.map .verify ++
          (providers.filterMap (·.responseFilter)).map fun filter =>
            .filter (filter.heldIn asynchronous) := by
  obtain ⟨told, carried, built⟩ := clientOf_eq_ok built
  have builds := builds_of_build built
  obtain ⟨kind, verifier, providers, made, all⟩ := outcome_keeps carried
  have same : told.asynchronous = asynchronous := kind
  have listed : told.providers = providers := all
  refine ⟨builds.asynchronous_eq.trans same, providers, made, ?_, ?_⟩
  · rw [builds.requestHooks_eq, requestHooks, listed]
  · rw [builds.responseHooks_eq, responseHooks, responseFilters, listed, same, verifier,
      List.map_map]
    cases calls.reverse.findSome? BuilderCall.verifier? <;> rfl

/-- The hooks of a client, for any calls that its builder was told. They are the functions of the
registered providers in the order of registration, and the check of the verifier that was named last
goes in front of those that see responses. Where none of the functions is a coroutine function that
nobody awaits, running the hooks is running these functions in turn. And where none is a coroutine
function at all, a client of the other kind is built from the same calls, and treats every message
alike. -/
theorem clientOf_hooks_in_turn (calls : List BuilderCall) (asynchronous : Bool)
    (interface : ClientInterface) (client : HttpClient)
    (built : clientOf calls asynchronous interface = .ok client) :
    let verifier := calls.reverse.findSome? BuilderCall.verifier?
    ∃ providers : List Instance,
      calls.filterMap BuilderCall.registered? = providers.map .ok ∧
      client.asynchronous = asynchronous ∧
      client.requestHooks = providers.filterMap (·.requestFilter) ∧
      client.responseHooks = verifier.toList.map .verify ++
        (providers.filterMap (·.responseFilter)).map (fun filter =>
          .filter (filter.heldIn asynchronous)) ∧
      ((∀ provider ∈ providers, provider.RunsIn asynchronous) →
        client.RunsInTurn (providers.filterMap (·.requestFilter))
          (verifier.toList.map .verify ++
            (providers.filterMap (·.responseFilter)).map .filter)) ∧
      ((∀ provider ∈ providers, provider.RunsIn false) → ∀ other : Bool,
        ∃ another, clientOf calls other interface = .ok another ∧ another.asynchronous = other ∧
          another.TreatsAlike client) := by
  intro verifier
  obtain ⟨kind, providers, made, requests, responses⟩ := hooks_of_clientOf built
  subst kind
  refine ⟨providers, made, rfl, requests, responses,
    runsInTurn_of_hooks requests responses, ?_⟩
  intro plain other
  obtain ⟨another, rebuilt⟩ := clientOf_other built other
  obtain ⟨otherKind, others, again, otherRequests, otherResponses⟩ := hooks_of_clientOf rebuilt
  have sameProviders : others = providers := by
    apply List.map_injective_iff.mpr (fun _ _ same => Except.ok.inj same)
    exact again.symm.trans made
  subst sameProviders
  subst otherKind
  have everywhere : ∀ kind, ∀ provider ∈ others, provider.RunsIn kind := by
    intro kind provider listed
    exact (plain provider listed).everywhere kind
  refine ⟨another, rebuilt, rfl, ?_⟩
  have inTurn := runsInTurn_of_hooks requests responses (everywhere _)
  exact (runsInTurn_of_hooks otherRequests otherResponses (everywhere _)).treatsAlike inTurn

end Calls

def hookedCalls : List BuilderCall :=
  [.baseUrl "http://localhost",
    .register (Sample.filterClass Sample.filters ["Both"] (some (Sample.headerFilter id))
      (some (Sample.statusNote "first:"))),
    .hostnameVerifier ⟨⟨"acme", ["Verifier"]⟩, none, none, .function Sample.isLocal⟩,
    .registerInstance ⟨⟨"acme", ["Last"]⟩, none, some (Sample.statusNote "last:"), .absent⟩]

def hookedProviders : List Instance :=
  [⟨⟨Sample.filters, ["Both"]⟩, some (Sample.headerFilter id), some (Sample.statusNote "first:"),
      .absent⟩,
    ⟨⟨"acme", ["Last"]⟩, none, some (Sample.statusNote "last:"), .absent⟩]

open scoped Sample in
theorem clientOf_hooks_in_turn_hooked :
    ∃ client another,
      clientOf hookedCalls false default = .ok client ∧
      clientOf hookedCalls true default = .ok another ∧
      client.requestHooks = hookedProviders.filterMap (·.requestFilter) ∧
      client.responseHooks.length = 3 ∧
      another.TreatsAlike client := by
  have succeeds : (clientOf hookedCalls false default).toBool = true := by
    decide +kernel
  cases built : clientOf hookedCalls false default with
  | error e =>
      rw [built] at succeeds
      cases succeeds
  | ok client =>
      obtain ⟨providers, made, -, requests, responses, -, alike⟩ :=
        clientOf_hooks_in_turn hookedCalls false default client built
      have registered : hookedCalls.filterMap BuilderCall.registered? =
          hookedProviders.map .ok := rfl
      have same : providers = hookedProviders := by
        apply List.map_injective_iff.mpr (fun _ _ same => Except.ok.inj same)
        exact made.symm.trans registered
      subst same
      have plain : ∀ provider ∈ hookedProviders, provider.RunsIn false := by
        intro provider listed
        simp only [hookedProviders, List.mem_cons, List.not_mem_nil, or_false] at listed
        cases listed with
        | inl first =>
            subst first
            constructor
            · intro filter has
              cases has
              exact .inr rfl
            · intro filter has
              cases has
              exact .inr rfl
        | inr last =>
            subst last
            constructor
            · intro filter has
              cases has
            · intro filter has
              cases has
              exact .inr rfl
      obtain ⟨another, rebuilt, -, treats⟩ := alike plain true
      refine ⟨client, another, rfl, rebuilt, requests, ?_, treats⟩
      rw [responses]
      rfl

end HttpClientBuilder

end ClientWiring
