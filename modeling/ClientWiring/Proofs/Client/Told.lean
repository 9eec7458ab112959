import ClientWiring.Proofs.Client.Building
import ClientWiring.Proofs.Wiring.Resolved
import ClientWiring.Proofs.Wiring.Run
set_option autoImplicit false

/-! A fresh builder of clients after all calls of a resolved setup. Both kinds of client leave it in
the same state, as every call sets a part of its own; only the registration of a class can fail. -/

namespace ClientWiring

def Constructed (classes : List ClassInfo) (objects : List Instance) : Prop :=
  List.Forall₂ (fun info object => info.construct = .ok object) classes objects

namespace Setup.Resolved

def withProperty (properties : Dictionary Value) (name : String) (value : Option Value) :
    Dictionary Value :=
  match value with
  | some value => properties.insert name value
  | none => properties

theorem get?_withProperty (properties : Dictionary Value) (name : String) (value : Option Value)
    (other : String) :
    (withProperty properties name value).get? other =
      if name = other then value.or (properties.get? other) else properties.get? other := by
  cases value with
  | none => simp [withProperty]
  | some value => simp [withProperty, Dictionary.get?_insert]

/-! ### Registrations -/

section Registrations

variable [UrlReader] [TlsLibrary]

/-- Registering classes adds their instances, in order, if all of them can be made. -/
theorem outcome_register_eq_ok_iff (classes : List ClassInfo) (builder told : HttpClientBuilder) :
    Plan.outcome ((classes.map BuilderCall.register).map .ok) builder = (.ok (), told) ↔
      ∃ objects, Constructed classes objects ∧
        told = { builder with providers := builder.providers ++ objects } := by
  induction classes generalizing builder with
  | nil =>
      constructor
      · intro done
        obtain rfl := (Prod.mk.inj done).2
        exact ⟨[], .nil, by rw [List.append_nil]⟩
      · rintro ⟨objects, made, rfl⟩
        cases made
        rw [List.append_nil]
        rfl
  | cons info rest ih =>
      rw [List.map_cons, List.map_cons, Plan.outcome_ok, HttpClientBuilder.apply_register]
      cases made : info.construct with
      | error thrown =>
          constructor
          · intro done
            cases done
          · rintro ⟨objects, all, -⟩
            cases all with
            | cons first _ => cases made.symm.trans first
      | ok object =>
          dsimp only
          rw [ih]
          constructor
          · rintro ⟨objects, all, rfl⟩
            refine ⟨object :: objects, .cons made all, ?_⟩
            simp only [List.append_assoc, List.singleton_append]
          · rintro ⟨objects, all, rfl⟩
            cases all with
            | @cons _ first _ others same all =>
                cases made.symm.trans same
                refine ⟨others, all, ?_⟩
                simp only [List.append_assoc, List.singleton_append]

theorem outcome_around_eq_ok_iff {before after : Plan} {classes : List ClassInfo}
    {start middle : HttpClientBuilder} {finish : List Instance → HttpClientBuilder}
    (begins : before.outcome start = (.ok (), middle))
    (ends : ∀ objects, after.outcome
      { middle with providers := middle.providers ++ objects } = (.ok (), finish objects))
    (told : HttpClientBuilder) :
    Plan.outcome (before ++ (classes.map BuilderCall.register).map .ok ++ after) start =
        (.ok (), told) ↔
      ∃ objects, Constructed classes objects ∧ told = finish objects := by
  rw [Plan.outcome_append, Plan.outcome_append, begins]
  dsimp only
  constructor
  · intro done
    cases registered : Plan.outcome ((classes.map BuilderCall.register).map .ok) middle with
    | mk result next =>
        rw [registered] at done
        cases result with
        | error e => cases done
        | ok _ =>
            obtain ⟨objects, made, rfl⟩ :=
              (outcome_register_eq_ok_iff classes middle next).mp registered
            refine ⟨objects, made, ?_⟩
            exact (Prod.mk.inj (done.symm.trans (ends objects))).2
  · rintro ⟨objects, made, rfl⟩
    rw [(outcome_register_eq_ok_iff classes middle _).mpr ⟨objects, made, rfl⟩]
    exact ends objects

end Registrations

/-! ### What is told -/

variable [UrlReader] [StoreLibrary] {setup : Setup}

def registered (settled : setup.Resolved) : List ClassInfo :=
  settled.providers ++ setup.annotated

def properties (settled : setup.Resolved) : Dictionary Value :=
  let limit := withProperty [] maxRedirectsProperty (settled.redirectLimit.map .int)
  let mode := withProperty limit encoderModeProperty (settled.multipartMode.map .encoder)
  let size := withProperty mode connectionPoolSizeProperty
    ((setup.layers.typed? .connectionPoolSize).map fun (size : Int) => .int size)
  withProperty size connectionTtlProperty
    ((setup.layers.typed? .connectionTtl).map fun (millis : Int) => .int millis)

def builder (settled : setup.Resolved) (asynchronous : Bool) (objects : List Instance) :
    HttpClientBuilder where
  asynchronous := asynchronous
  baseUrl := some settled.baseUrl
  connectTimeout := (settled.connectTimeout.map Value.int).getD .null
  readTimeout := (settled.readTimeout.map Value.int).getD .null
  providers := objects
  trustStore := settled.trustStore
  keyStore := settled.keyStore.map (·.1)
  keyStorePassword := settled.keyStore.bind (·.2)
  verifier := settled.verifier.or settled.trustAllVerifier
  tlsContext := settled.trustAllVerifier.map fun _ => .trustAll
  followRedirects := settled.followRedirects.getD false
  proxy := settled.proxy
  queryStyle := settled.queryStyle
  properties := settled.properties

theorem get?_properties (settled : setup.Resolved) :
    settled.properties.get? maxRedirectsProperty = settled.redirectLimit.map .int ∧
    settled.properties.get? encoderModeProperty = settled.multipartMode.map .encoder ∧
    settled.properties.get? connectionPoolSizeProperty =
      ((setup.layers.typed? .connectionPoolSize).map fun (size : Int) => .int size) ∧
    settled.properties.get? connectionTtlProperty =
      ((setup.layers.typed? .connectionTtl).map fun (millis : Int) => .int millis) := by
  simp [properties, get?_withProperty, maxRedirectsProperty, encoderModeProperty,
    connectionPoolSizeProperty, connectionTtlProperty]

def earlyCalls (settled : setup.Resolved) : List BuilderCall :=
  [.baseUrl settled.baseUrl] ++ settled.timeoutCalls

def lateCalls (settled : setup.Resolved) : List BuilderCall :=
  match setup.variant with
  | .classic =>
    settled.trustAllCalls ++ settled.storeCalls ++ settled.proxyCalls ++ settled.followCalls ++
      settled.queryStyleCalls ++ settled.poolCalls
  | .reactive =>
    settled.storeCalls ++ settled.redirectLimitCalls ++ settled.followCalls ++
      settled.queryStyleCalls ++ settled.proxyCalls ++ settled.multipartCalls ++ settled.poolCalls

theorem calls_eq_registered (settled : setup.Resolved) :
    settled.calls =
      settled.earlyCalls ++ settled.registered.map .register ++ settled.lateCalls := by
  unfold calls earlyCalls lateCalls registered annotated
  cases setup.variant <;> simp only [List.append_assoc, List.append_nil]

/-! ### Calls on a builder of clients -/

variable [TlsLibrary]

section Calls

variable (settled : setup.Resolved) (builder : HttpClientBuilder)

theorem outcome_timeouts :
    Plan.outcome (settled.timeoutCalls.map .ok) builder =
      (.ok (), { builder with
        connectTimeout := (settled.connectTimeout.map Value.int).getD builder.connectTimeout
        readTimeout := (settled.readTimeout.map Value.int).getD builder.readTimeout }) := by
  unfold timeoutCalls
  cases settled.connectTimeout <;> cases settled.readTimeout <;> rfl

theorem outcome_trustAll :
    Plan.outcome (settled.trustAllCalls.map .ok) builder =
      (.ok (), { builder with
        verifier := settled.trustAllVerifier.or builder.verifier
        tlsContext :=
          (settled.trustAllVerifier.map fun _ => .trustAll).or builder.tlsContext }) := by
  unfold trustAllCalls
  cases settled.trustAllVerifier <;> rfl

theorem outcome_stores :
    Plan.outcome (settled.storeCalls.map .ok) builder =
      (.ok (), { builder with
        trustStore := settled.trustStore.or builder.trustStore
        keyStore := (settled.keyStore.map (·.1)).or builder.keyStore
        keyStorePassword :=
          (settled.keyStore.map (·.2)).getD builder.keyStorePassword
        verifier := settled.verifier.or builder.verifier }) := by
  unfold storeCalls
  cases settled.trustStore <;> cases settled.keyStore <;> cases settled.verifier <;> rfl

theorem outcome_proxy :
    Plan.outcome (settled.proxyCalls.map .ok) builder =
      (.ok (), { builder with proxy := settled.proxy.or builder.proxy }) := by
  unfold proxyCalls
  cases settled.proxy <;> rfl

theorem outcome_redirectLimit :
    Plan.outcome (settled.redirectLimitCalls.map .ok) builder =
      (.ok (), { builder with
        properties := withProperty builder.properties maxRedirectsProperty
          (settled.redirectLimit.map .int) }) := by
  unfold redirectLimitCalls
  cases settled.redirectLimit <;> rfl

theorem outcome_follow :
    Plan.outcome (settled.followCalls.map .ok) builder =
      (.ok (), { builder with
        followRedirects := settled.followRedirects.getD builder.followRedirects }) := by
  unfold followCalls
  cases settled.followRedirects <;> rfl

theorem outcome_queryStyle :
    Plan.outcome (settled.queryStyleCalls.map .ok) builder =
      (.ok (), { builder with queryStyle := settled.queryStyle.or builder.queryStyle }) := by
  unfold queryStyleCalls
  cases settled.queryStyle <;> rfl

theorem outcome_multipart :
    Plan.outcome (settled.multipartCalls.map .ok) builder =
      (.ok (), { builder with
        properties := withProperty builder.properties encoderModeProperty
          (settled.multipartMode.map .encoder) }) := by
  unfold multipartCalls
  cases settled.multipartMode <;> rfl

theorem outcome_pool :
    Plan.outcome (settled.poolCalls.map .ok) builder =
      (.ok (), { builder with
        properties := withProperty
          (withProperty builder.properties connectionPoolSizeProperty
            ((setup.layers.typed? .connectionPoolSize).map fun (size : Int) => .int size))
          connectionTtlProperty
          ((setup.layers.typed? .connectionTtl).map fun (millis : Int) => .int millis) }) := by
  unfold poolCalls
  cases setup.layers.typed? .connectionPoolSize <;> cases setup.layers.typed? .connectionTtl <;> rfl

end Calls

theorem outcome_early (settled : setup.Resolved) (asynchronous : Bool) :
    Plan.outcome (settled.earlyCalls.map .ok) (HttpClientBuilder.fresh asynchronous) =
      (.ok (), { HttpClientBuilder.fresh asynchronous with
        baseUrl := some settled.baseUrl
        connectTimeout := (settled.connectTimeout.map Value.int).getD .null
        readTimeout := (settled.readTimeout.map Value.int).getD .null }) := by
  unfold earlyCalls
  rw [List.map_append, Plan.outcome_append]
  exact settled.outcome_timeouts _

theorem outcome_late (settled : setup.Resolved) (asynchronous : Bool) (objects : List Instance) :
    Plan.outcome (settled.lateCalls.map .ok)
        { HttpClientBuilder.fresh asynchronous with
          baseUrl := some settled.baseUrl
          connectTimeout := (settled.connectTimeout.map Value.int).getD .null
          readTimeout := (settled.readTimeout.map Value.int).getD .null
          providers := objects } =
      (.ok (), settled.builder asynchronous objects) := by
  unfold lateCalls
  cases kind : setup.variant with
  | classic =>
      simp only [List.map_append, Plan.outcome_append, outcome_trustAll, outcome_stores,
        outcome_proxy, outcome_follow, outcome_queryStyle, outcome_pool, HttpClientBuilder.fresh,
        Setup.Resolved.builder, properties, settled.redirectLimit_classic kind,
        settled.multipartMode_classic kind, Option.or_none]
      cases settled.keyStore <;> rfl
  | reactive =>
      simp only [List.map_append, Plan.outcome_append, outcome_stores, outcome_redirectLimit,
        outcome_proxy, outcome_follow, outcome_queryStyle, outcome_multipart, outcome_pool,
        HttpClientBuilder.fresh, Setup.Resolved.builder, properties,
        settled.trustAllVerifier_reactive kind, Option.or_none]
      cases settled.keyStore <;> rfl

/-- A fresh builder of clients takes all calls of a resolved setup exactly if every registered class
has an instance; it has then been told all settings. -/
theorem outcome_fresh_eq_ok_iff (settled : setup.Resolved) (asynchronous : Bool)
    (told : HttpClientBuilder) :
    setup.plan.outcome (.fresh asynchronous) = (.ok (), told) ↔
      ∃ objects, Constructed settled.registered objects ∧
        told = settled.builder asynchronous objects := by
  rw [settled.plan_eq, settled.calls_eq_registered, List.map_append, List.map_append]
  exact outcome_around_eq_ok_iff (settled.outcome_early asynchronous)
    (settled.outcome_late asynchronous) told

end Setup.Resolved

namespace Setup

variable [UrlReader] [StoreLibrary] [TlsLibrary]

/-- Constructing with a fresh builder of clients is carrying out the plan, and building then. -/
theorem create_fresh (setup : Setup) (elapsed : Double) (scene : Scene HttpClientBuilder)
    {asynchronous : Bool} (fresh : scene.builder = .fresh asynchronous) :
    ((setup.create elapsed : Step HttpClientBuilder HttpClient).run scene).1 =
      match setup.plan.outcome (HttpClientBuilder.fresh asynchronous) with
      | (.error e, _) => .error e
      | (.ok (), told) => told.build setup.interface := by
  have whole : _ = (setup.plan.constructed setup.interface scene.builder).1 :=
    congrArg Prod.fst (setup.create_eq_constructed elapsed scene)
  rw [fresh] at whole
  refine whole.trans ?_
  unfold Plan.constructed
  rcases setup.plan.outcome (HttpClientBuilder.fresh asynchronous) with ⟨_ | ⟨⟩, told⟩
  · rfl
  · dsimp only
    rw [HttpClientBuilder.clientBuilder_build]
    cases told.build setup.interface <;> rfl

/-- A client that is made comes from settings that all resolve, and has what they say. -/
theorem create_builds (setup : Setup) (elapsed : Double) (scene : Scene HttpClientBuilder)
    {asynchronous : Bool} (fresh : scene.builder = .fresh asynchronous) {client : HttpClient}
    (made : ((setup.create elapsed : Step HttpClientBuilder HttpClient).run scene).1 = .ok client) :
    ∃ (settled : setup.Resolved) (objects : List Instance),
      Constructed settled.registered objects ∧
      (settled.builder asynchronous objects).Builds setup.interface client := by
  rw [setup.create_fresh elapsed scene fresh] at made
  rcases carried : setup.plan.outcome (HttpClientBuilder.fresh asynchronous) with ⟨e | _, told⟩
  · rw [carried] at made
    cases made
  · rw [carried] at made
    obtain ⟨settled⟩ := setup.resolved_of_faultless (Plan.faultless_of_outcome carried)
    obtain ⟨objects, constructed, rfl⟩ :=
      (settled.outcome_fresh_eq_ok_iff asynchronous told).mp carried
    exact ⟨settled, objects, constructed, HttpClientBuilder.builds_of_build made⟩

end Setup

end ClientWiring
