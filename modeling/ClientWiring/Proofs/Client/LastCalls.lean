import ClientWiring.Proofs.Client.Hooks
import ClientWiring.Proofs.Dictionary
set_option autoImplicit false

/-! What a builder of clients remembers of the calls that it was told. Each setting, and each property
under its name, is a slot that the last call for it fills; only registrations add up. So two sequences
of calls with the same registrations and the same last calls lead to clients that are alike, or to the
same failure. Building again leads to the same client, although a context that the builder was given
has been set up in the meantime. -/

namespace ClientWiring

/-- A place of a builder that holds one value at a time. -/
inductive Slot where
  | baseUrl
  | connectTimeout
  | readTimeout
  | trustStore
  | keyStore
  | hostnameVerifier
  | tlsContext
  | followRedirects
  | proxyAddress
  | queryStyle
  | property (name : String)
  deriving DecidableEq, Repr

namespace BuilderCall

def slot? : BuilderCall → Option Slot
  | .baseUrl _ => some .baseUrl
  | .connectTimeout _ => some .connectTimeout
  | .readTimeout _ => some .readTimeout
  | .register _ | .registerInstance _ => none
  | .trustStore _ => some .trustStore
  | .keyStore _ _ => some .keyStore
  | .hostnameVerifier _ => some .hostnameVerifier
  | .tlsContext _ => some .tlsContext
  | .followRedirects _ => some .followRedirects
  | .proxyAddress _ => some .proxyAddress
  | .queryStyle _ => some .queryStyle
  | .property name _ => some (.property name)

def last? (slot : Slot) (calls : List BuilderCall) : Option BuilderCall :=
  calls.reverse.find? fun call => call.slot? = some slot

theorem last?_cons (slot : Slot) (call : BuilderCall) (rest : List BuilderCall) :
    last? slot (call :: rest) =
      (last? slot rest).or (if call.slot? = some slot then some call else none) := by
  rw [last?, List.reverse_cons, List.find?_append, List.find?_singleton]
  by_cases fills : call.slot? = some slot <;> simp [last?, fills]

end BuilderCall

namespace HttpClientBuilder

/-- The call that would fill a slot with what the builder has there. -/
def content? (builder : HttpClientBuilder) : Slot → Option BuilderCall
  | .baseUrl => builder.baseUrl.map .baseUrl
  | .connectTimeout => some (.connectTimeout builder.connectTimeout)
  | .readTimeout => some (.readTimeout builder.readTimeout)
  | .trustStore => builder.trustStore.map .trustStore
  | .keyStore => builder.keyStore.map fun store => .keyStore store builder.keyStorePassword
  | .hostnameVerifier => builder.verifier.map .hostnameVerifier
  | .tlsContext => builder.tlsContext.map .tlsContext
  | .followRedirects => some (.followRedirects builder.followRedirects)
  | .proxyAddress => builder.proxy.map .proxyAddress
  | .queryStyle => builder.queryStyle.map .queryStyle
  | .property name => (builder.properties.get? name).map (.property name)

/-- A password is there only with the key store that it is for. -/
def Coherent (builder : HttpClientBuilder) : Prop :=
  builder.keyStore = none → builder.keyStorePassword = none

/-- Builders that differ in nothing but the order of their properties. -/
structure Alike (builder other : HttpClientBuilder) : Prop where
  settings : other = { builder with properties := other.properties }
  properties : ∀ name, builder.properties.get? name = other.properties.get? name

end HttpClientBuilder

structure HttpClient.Alike (client other : HttpClient) : Prop where
  settings : other = { client with properties := other.properties }
  properties : ∀ name, client.properties.get? name = other.properties.get? name

namespace HttpClientBuilder

theorem keyStore_of_content? {builder other : HttpClientBuilder} (coherent : builder.Coherent)
    (otherCoherent : other.Coherent)
    (same : builder.content? .keyStore = other.content? .keyStore) :
    builder.keyStore = other.keyStore ∧ builder.keyStorePassword = other.keyStorePassword := by
  unfold content? at same
  cases store : builder.keyStore with
  | none =>
      cases another : other.keyStore with
      | none => exact ⟨rfl, (coherent store).trans (otherCoherent another).symm⟩
      | some _ =>
          rw [store, another] at same
          cases same
  | some first =>
      cases another : other.keyStore with
      | none =>
          rw [store, another] at same
          cases same
      | some second =>
          rw [store, another] at same
          obtain ⟨stores, passwords⟩ := BuilderCall.keyStore.inj (Option.some.inj same)
          exact ⟨congrArg some stores, passwords⟩

/-- The slots of a builder, its providers and its kind tell all of it, up to the order of its
properties. -/
theorem alike_of_content? {builder other : HttpClientBuilder} (coherent : builder.Coherent)
    (otherCoherent : other.Coherent) (kind : builder.asynchronous = other.asynchronous)
    (providers : builder.providers = other.providers)
    (same : ∀ slot, builder.content? slot = other.content? slot) : builder.Alike other := by
  have baseUrl : builder.baseUrl = other.baseUrl :=
    Option.map_injective (fun _ _ call => BuilderCall.baseUrl.inj call) (same .baseUrl)
  have connect : builder.connectTimeout = other.connectTimeout :=
    BuilderCall.connectTimeout.inj (Option.some.inj (same .connectTimeout))
  have read : builder.readTimeout = other.readTimeout :=
    BuilderCall.readTimeout.inj (Option.some.inj (same .readTimeout))
  have trustStore : builder.trustStore = other.trustStore :=
    Option.map_injective (fun _ _ call => BuilderCall.trustStore.inj call) (same .trustStore)
  obtain ⟨keyStore, password⟩ := keyStore_of_content? coherent otherCoherent (same .keyStore)
  have verifier : builder.verifier = other.verifier :=
    Option.map_injective (fun _ _ call => BuilderCall.hostnameVerifier.inj call)
      (same .hostnameVerifier)
  have context : builder.tlsContext = other.tlsContext :=
    Option.map_injective (fun _ _ call => BuilderCall.tlsContext.inj call) (same .tlsContext)
  have follow : builder.followRedirects = other.followRedirects :=
    BuilderCall.followRedirects.inj (Option.some.inj (same .followRedirects))
  have proxy : builder.proxy = other.proxy :=
    Option.map_injective (fun _ _ call => BuilderCall.proxyAddress.inj call) (same .proxyAddress)
  have style : builder.queryStyle = other.queryStyle :=
    Option.map_injective (fun _ _ call => BuilderCall.queryStyle.inj call) (same .queryStyle)
  constructor
  · rw [kind, baseUrl, connect, read, providers, trustStore, keyStore, password, verifier, context,
      follow, proxy, style]
  · intro name
    exact Option.map_injective (fun _ _ call => (BuilderCall.property.inj call).2)
      (same (.property name))

/-! ### Building again -/

section Again

variable [TlsLibrary]

theorem tls_of_given {builder : HttpClientBuilder} {context : TlsContext}
    (given : builder.tlsContext = some context) :
    builder.tls = ((builder.withIdentity context).map builder.hostChecked).map some := by
  unfold tls baseContext
  rw [given]
  change (builder.withIdentity context >>= fun context =>
    pure (some (builder.hostChecked context))) = _
  cases builder.withIdentity context <;> rfl

/-- A context that has been set up is set up to the same. -/
theorem withIdentity_setUp (builder : HttpClientBuilder) (context : TlsContext) :
    (builder.withIdentity (builder.setUp context)).map builder.hostChecked =
      (builder.withIdentity context).map builder.hostChecked := by
  unfold withIdentity setUp hostChecked
  cases builder.keyStore with
  | none => cases builder.verifier <;> rfl
  | some store =>
      dsimp only
      cases TlsLibrary.present store (builder.keyStorePassword.getD "") with
      | error e => rfl
      | ok _ => cases builder.verifier <;> rfl

theorem tls_afterBuild (builder : HttpClientBuilder) : builder.afterBuild.tls = builder.tls := by
  cases given : builder.tlsContext with
  | none =>
      unfold tls baseContext afterBuild
      rw [given]
      rfl
  | some context =>
      have again : builder.afterBuild.tlsContext = some (builder.setUp context) :=
        congrArg (Option.map builder.setUp) given
      rw [tls_of_given again, tls_of_given given]
      exact congrArg (Except.map some) (builder.withIdentity_setUp context)

end Again

/-! ### One call -/

section Calls

variable [UrlReader] [TlsLibrary]

/-- A call fills its slot and leaves the others, whatever they hold. -/
theorem content?_apply {call : BuilderCall} {builder told : HttpClientBuilder}
    (taken : ClientBuilder.apply call builder = .ok told) (slot : Slot) :
    told.content? slot =
      if call.slot? = some slot then some call else builder.content? slot := by
  cases call with
  | register info =>
      obtain ⟨object, -, rfl⟩ := exists_instance_of_apply taken
      cases slot <;> rfl
  | property name value =>
      cases taken
      cases slot with
      | property other =>
          by_cases same : name = other
          · subst same
            simp [content?, BuilderCall.slot?, Dictionary.get?_insert]
          · simp [content?, BuilderCall.slot?, Dictionary.get?_insert, same]
      | _ => rfl
  | _ =>
      cases taken
      cases slot <;> rfl

theorem coherent_apply {call : BuilderCall} {builder told : HttpClientBuilder}
    (taken : ClientBuilder.apply call builder = .ok told) (coherent : builder.Coherent) :
    told.Coherent := by
  cases call with
  | register info =>
      obtain ⟨object, -, rfl⟩ := exists_instance_of_apply taken
      exact coherent
  | keyStore store password =>
      cases taken
      exact nofun
  | _ =>
      cases taken
      exact coherent

/-! ### Many calls -/

/-- After calls each slot holds what the last call for it brought, if there was one. -/
theorem content?_outcome {calls : List BuilderCall} {builder told : HttpClientBuilder}
    (carried : Plan.outcome (calls.map .ok) builder = (.ok (), told)) (slot : Slot) :
    told.content? slot = (BuilderCall.last? slot calls).or (builder.content? slot) := by
  induction calls generalizing builder with
  | nil =>
      obtain rfl := (Prod.mk.inj carried).2
      rfl
  | cons call rest ih =>
      obtain ⟨next, answer, carried⟩ := Plan.exists_next_of_outcome carried
      rw [ih carried, content?_apply answer, BuilderCall.last?_cons, Option.or_assoc]
      split <;> rfl

theorem coherent_outcome {calls : List BuilderCall} {builder told : HttpClientBuilder}
    (carried : Plan.outcome (calls.map .ok) builder = (.ok (), told)) (coherent : builder.Coherent) :
    told.Coherent := by
  induction calls generalizing builder with
  | nil =>
      obtain rfl := (Prod.mk.inj carried).2
      exact coherent
  | cons call rest ih =>
      obtain ⟨next, answer, carried⟩ := Plan.exists_next_of_outcome carried
      exact ih carried (coherent_apply answer coherent)

def Registrable (calls : List BuilderCall) : Prop :=
  ∀ made ∈ calls.filterMap BuilderCall.registered?, ∃ object, made = .ok object

theorem exists_apply {call : BuilderCall}
    (registrable : ∀ made, call.registered? = some made → ∃ object, made = .ok object)
    (builder : HttpClientBuilder) : ∃ told, ClientBuilder.apply call builder = .ok told := by
  cases call with
  | register info =>
      obtain ⟨object, made⟩ := registrable info.construct rfl
      rw [apply_register, made]
      exact ⟨_, rfl⟩
  | _ => exact ⟨_, rfl⟩

theorem exists_outcome {calls : List BuilderCall} (registrable : Registrable calls)
    (builder : HttpClientBuilder) :
    ∃ told, Plan.outcome (calls.map .ok) builder = (.ok (), told) := by
  induction calls generalizing builder with
  | nil => exact ⟨builder, rfl⟩
  | cons call rest ih =>
      have first : ∀ made, call.registered? = some made → ∃ object, made = .ok object := by
        intro made brings
        exact registrable made (List.mem_filterMap.mpr ⟨call, List.mem_cons_self, brings⟩)
      have later : Registrable rest := by
        intro made member
        obtain ⟨call, listed, brings⟩ := List.mem_filterMap.mp member
        exact registrable made (List.mem_filterMap.mpr ⟨call, List.mem_cons_of_mem _ listed, brings⟩)
      obtain ⟨next, answer⟩ := exists_apply first builder
      obtain ⟨told, carried⟩ := ih later next
      refine ⟨told, ?_⟩
      rw [List.map_cons, Plan.outcome_ok, answer]
      exact carried

/-- Two sequences of calls with the same registrations and the same last calls lead to builders that
are alike. -/
theorem alike_of_last? {calls others : List BuilderCall} {start told other : HttpClientBuilder}
    (coherent : start.Coherent)
    (registers : calls.filterMap BuilderCall.registered? = others.filterMap BuilderCall.registered?)
    (last : ∀ slot, BuilderCall.last? slot calls = BuilderCall.last? slot others)
    (carried : Plan.outcome (calls.map .ok) start = (.ok (), told))
    (otherCarried : Plan.outcome (others.map .ok) start = (.ok (), other)) : told.Alike other := by
  obtain ⟨kind, -, objects, made, providers⟩ := outcome_keeps carried
  obtain ⟨otherKind, -, otherObjects, otherMade, otherProviders⟩ := outcome_keeps otherCarried
  have sameObjects : objects = otherObjects := by
    apply List.map_injective_iff.mpr (fun _ _ same => Except.ok.inj same)
    rw [← made, ← otherMade, registers]
  refine alike_of_content? (coherent_outcome carried coherent)
    (coherent_outcome otherCarried coherent) (kind.trans otherKind.symm) ?_ fun slot => ?_
  · rw [providers, otherProviders, sameObjects]
  · rw [content?_outcome carried, content?_outcome otherCarried, last]

/-! ### Building -/

/-- Builders that are alike build clients that are alike, or fail alike. -/
theorem Alike.build_eq {builder other : HttpClientBuilder} (alike : builder.Alike other)
    (interface : ClientInterface) :
    other.build interface =
      (builder.build interface).map fun client =>
        { client with properties := other.properties } := by
  obtain ⟨settings, properties⟩ := alike
  -- Two parts are worked out from properties, each from the value under one name.
  have limits : other.limits = builder.limits := by
    unfold HttpClientBuilder.limits
    rw [properties, properties]
  have maxRedirects : other.maxRedirects = builder.maxRedirects := by
    unfold HttpClientBuilder.maxRedirects
    rw [properties]
  generalize other.properties = own at settings
  subst settings
  have baseUrl : ({ builder with properties := own } : HttpClientBuilder).baseUrl =
      builder.baseUrl := rfl
  have timeouts : ({ builder with properties := own } : HttpClientBuilder).timeouts =
      builder.timeouts := rfl
  have tls : ({ builder with properties := own } : HttpClientBuilder).tls = builder.tls := rfl
  have proxy : ({ builder with properties := own } : HttpClientBuilder).proxy =
      builder.proxy := rfl
  unfold build
  rw [limits, maxRedirects, baseUrl, timeouts, tls, proxy]
  cases builder.baseUrl with
  | none => rfl
  | some text =>
  cases builder.timeouts with
  | error e => rfl
  | ok limitsOfTime =>
  cases builder.tls with
  | error e => rfl
  | ok context =>
  cases builder.limits with
  | error e => rfl
  | ok pool =>
  cases builder.maxRedirects with
  | error e => rfl
  | ok most =>
  simp only [pure_bind, mapError_ok_bind]
  cases baseUrlOf text with
  | error e => rfl
  | ok url =>
  cases builder.proxy with
  | none => rfl
  | some address =>
  dsimp only
  cases proxyOf address with
  | error e => rfl
  | ok proxyUrl => rfl

theorem build_afterBuild (builder : HttpClientBuilder) (interface : ClientInterface) :
    builder.afterBuild.build interface = builder.build interface := by
  have tls := builder.tls_afterBuild
  unfold build
  rw [tls]
  rfl

/-- Whether there is a client, and which one, depends on the last value of each setting alone. Take any
two sequences of calls with the same registrations, none of which fails, and with the same last call
for every other setting and every property, if there is one. Fresh builders of one kind take both; then
the clients that they build are alike, or both fail in the same way. A builder that has built a client
keeps every setting, except that a context which it was given is set up in place, and building
again gives an equal client. -/
theorem build_of_last_calls (calls others : List BuilderCall) (asynchronous : Bool)
    (interface : ClientInterface) (registrable : Registrable calls)
    (registers : calls.filterMap BuilderCall.registered? = others.filterMap BuilderCall.registered?)
    (last : ∀ slot, BuilderCall.last? slot calls = BuilderCall.last? slot others) :
    ∃ told other,
      Plan.outcome (calls.map .ok) (fresh asynchronous) = (.ok (), told) ∧
      Plan.outcome (others.map .ok) (fresh asynchronous) = (.ok (), other) ∧
      ((∃ client another, told.build interface = .ok client ∧ other.build interface = .ok another ∧
          client.Alike another) ∨
        ∃ e, told.build interface = .error e ∧ other.build interface = .error e) ∧
      ∀ client after, ClientBuilder.build interface told = .ok (client, after) →
        told.build interface = .ok client ∧
        after = { told with tlsContext := after.tlsContext } ∧
        after.tlsContext = told.tlsContext.map (fun context =>
          { context with
            checksHost := context.checksHost && told.verifier.isNone
            identity := told.keyStore.or context.identity }) ∧
        ∃ again, ClientBuilder.build interface after = .ok (client, again) := by
  obtain ⟨told, carried⟩ := exists_outcome registrable (fresh asynchronous)
  have otherRegistrable : Registrable others := by
    unfold Registrable
    rw [← registers]
    exact registrable
  obtain ⟨other, otherCarried⟩ := exists_outcome otherRegistrable (fresh asynchronous)
  have alike : told.Alike other :=
    alike_of_last? (fun _ => rfl) registers last carried otherCarried
  refine ⟨told, other, carried, otherCarried, ?_, ?_⟩
  · have built := alike.build_eq interface
    cases first : told.build interface with
    | error e =>
        rw [first] at built
        exact .inr ⟨e, rfl, built⟩
    | ok client =>
        rw [first] at built
        refine .inl ⟨client, _, rfl, built, rfl, fun name => ?_⟩
        rw [(builds_of_build first).properties_eq]
        exact alike.properties name
  · intro client after built
    rw [clientBuilder_build] at built
    cases first : told.build interface with
    | error e =>
        rw [first] at built
        cases built
    | ok same =>
        rw [first] at built
        cases built
        refine ⟨rfl, rfl, ?_, told.afterBuild.afterBuild, ?_⟩
        · unfold afterBuild setUp hostChecked
          cases told.verifier <;> cases told.keyStore <;> simp
        · rw [clientBuilder_build, build_afterBuild, first]
          rfl

end Calls

def repeatedCalls : List BuilderCall :=
  [.property "mode" (.int 1), .followRedirects false, .baseUrl "http://localhost",
    .register (Sample.filterClass Sample.filters ["Header"] (some (Sample.headerFilter id)) none),
    .property "mode" (.int 2), .property "size" .null, .followRedirects true]

def lastCalls : List BuilderCall :=
  [.followRedirects true, .property "size" .null, .property "mode" (.int 2),
    .register (Sample.filterClass Sample.filters ["Header"] (some (Sample.headerFilter id)) none),
    .baseUrl "http://localhost"]

open scoped Sample in
theorem build_of_last_calls_repeated :
    ∃ told other,
      Plan.outcome (repeatedCalls.map .ok) (fresh false) = (.ok (), told) ∧
      Plan.outcome (lastCalls.map .ok) (fresh false) = (.ok (), other) ∧
      ((∃ client another, told.build default = .ok client ∧ other.build default = .ok another ∧
          client.Alike another) ∨
        ∃ e, told.build default = .error e ∧ other.build default = .error e) := by
  have registrable : Registrable repeatedCalls := by
    intro made member
    rw [List.mem_singleton.mp member]
    exact ⟨_, rfl⟩
  have last : ∀ slot, BuilderCall.last? slot repeatedCalls = BuilderCall.last? slot lastCalls := by
    intro slot
    cases slot with
    | property name =>
        by_cases mode : name = "mode"
        · subst mode
          rfl
        · by_cases size : name = "size"
          · subst size
            rfl
          · simp [BuilderCall.last?, repeatedCalls, lastCalls, BuilderCall.slot?, Ne.symm mode,
              Ne.symm size]
    | _ => rfl
  obtain ⟨told, other, carried, otherCarried, alike, -⟩ :=
    build_of_last_calls repeatedCalls lastCalls false default registrable rfl last
  exact ⟨told, other, carried, otherCarried, alike⟩

end HttpClientBuilder

end ClientWiring
