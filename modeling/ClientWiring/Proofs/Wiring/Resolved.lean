import Mathlib.Data.List.Forall2
import ClientWiring.Proofs.Wiring.Resolution
set_option autoImplicit false

/-! Setups whose settings all resolve, and the calls that these make of them. Such a setup is one
whose plan has no fault. -/

namespace ClientWiring

namespace Plan

theorem told_ok {α : Type} (found : Option α) (calls : α → List BuilderCall) :
    told (.ok found) calls = (found.toList.flatMap calls).map .ok := by
  cases found <;> simp [told]

theorem told_ok_single {α : Type} (found : Option α) (call : α → BuilderCall) :
    told (.ok found) (fun a => [call a]) = (found.toList.map call).map .ok := by
  cases found <;> rfl

end Plan

namespace Setup

/-! ### Registrations of providers -/

theorem registrations_eq {setup : Setup} (names : List String) (providers : List ClassInfo)
    (resolve : List.Forall₂ (fun name info =>
      providerClass setup.registry setup.around.library name = .ok info) names providers) :
    names.map setup.registration = (providers.map BuilderCall.register).map .ok := by
  induction resolve with
  | nil => rfl
  | cons found _ ih =>
      rw [List.map_cons, ih]
      unfold registration
      rw [found]
      rfl

theorem registered_of_faultless (setup : Setup) (names : List String)
    (faultless : Plan.fault? (names.map setup.registration) = none) :
    ∃ providers, List.Forall₂ (fun name info =>
      providerClass setup.registry setup.around.library name = .ok info) names providers := by
  induction names with
  | nil => exact ⟨[], .nil⟩
  | cons name rest ih =>
      rw [List.map_cons] at faultless
      unfold registration at faultless
      cases found : providerClass setup.registry setup.around.library name with
      | error e =>
          rw [found] at faultless
          cases faultless
      | ok info =>
          rw [found] at faultless
          obtain ⟨providers, resolve⟩ := ih faultless
          exact ⟨info :: providers, .cons found resolve⟩

theorem providers_of_faultless (setup : Setup) (faultless : setup.providerPlan.fault? = none) :
    ∃ names providers, setup.configuredNames = .ok names ∧
      List.Forall₂ (fun name info =>
        providerClass setup.registry setup.around.library name = .ok info) names providers := by
  unfold providerPlan at faultless
  rw [Plan.fault?_append_eq_none] at faultless
  cases configured : setup.configuredNames with
  | error e =>
      rw [configured] at faultless
      cases faultless.1
  | ok names =>
      rw [configured] at faultless
      obtain ⟨providers, resolve⟩ := setup.registered_of_faultless names faultless.1
      exact ⟨names, providers, rfl, resolve⟩

end Setup

variable [UrlReader] [StoreLibrary]

structure Setup.Resolved (setup : Setup) where
  baseUrl : String
  connectTimeout : Option Int
  readTimeout : Option Int
  providerNames : List String
  providers : List ClassInfo
  trustAllVerifier : Option Instance
  trustStore : Option TrustStore
  /-- A key store with the password of its key. -/
  keyStore : Option (KeyStore × Option String)
  verifier : Option Instance
  proxy : Option ProxyAddress
  redirectLimit : Option Int
  followRedirects : Option Bool
  queryStyle : Option QueryStyle
  multipartMode : Option EncoderMode
  baseUrl_resolves : setup.baseUrl = .ok baseUrl
  connectTimeout_resolves : setup.setting? .connectTimeout = .ok connectTimeout
  readTimeout_resolves : setup.setting? .readTimeout = .ok readTimeout
  providerNames_resolve : setup.configuredNames = .ok providerNames
  providers_resolve :
    List.Forall₂ (fun name info =>
      providerClass setup.registry setup.around.library name = .ok info) providerNames providers
  trustAllVerifier_resolves : setup.trustAllVerifier? = .ok trustAllVerifier
  trustStore_resolves : setup.trustStore? = .ok trustStore
  keyStore_resolves : setup.keyStore? = .ok keyStore
  verifier_resolves : setup.verifier? = .ok verifier
  proxy_resolves : setup.proxy? = .ok proxy
  redirectLimit_resolves : setup.redirectLimit? = .ok redirectLimit
  followRedirects_resolves : setup.setting? .followRedirects = .ok followRedirects
  queryStyle_resolves : setup.setting? .queryParamStyle = .ok queryStyle
  multipartMode_resolves : setup.multipartMode? = .ok multipartMode

namespace Setup.Resolved

variable {setup : Setup}

/-! ### The calls that settings make -/

def timeoutCalls (settled : setup.Resolved) : List BuilderCall :=
  (settled.connectTimeout.toList.map fun millis => .connectTimeout (.int millis)) ++
    settled.readTimeout.toList.map fun millis => .readTimeout (.int millis)

def trustAllCalls (settled : setup.Resolved) : List BuilderCall :=
  settled.trustAllVerifier.toList.flatMap fun verifier =>
    [.hostnameVerifier verifier, .tlsContext .trustAll]

def storeCalls (settled : setup.Resolved) : List BuilderCall :=
  settled.trustStore.toList.map .trustStore ++
    (settled.keyStore.toList.map fun (store, password) => .keyStore store password) ++
    settled.verifier.toList.map .hostnameVerifier

def proxyCalls (settled : setup.Resolved) : List BuilderCall :=
  settled.proxy.toList.map .proxyAddress

def redirectLimitCalls (settled : setup.Resolved) : List BuilderCall :=
  settled.redirectLimit.toList.map fun limit => .property maxRedirectsProperty (.int limit)

def followCalls (settled : setup.Resolved) : List BuilderCall :=
  settled.followRedirects.toList.map .followRedirects

def queryStyleCalls (settled : setup.Resolved) : List BuilderCall :=
  settled.queryStyle.toList.map .queryStyle

def multipartCalls (settled : setup.Resolved) : List BuilderCall :=
  settled.multipartMode.toList.map fun mode => .property encoderModeProperty (.encoder mode)

def poolCalls (_ : setup.Resolved) : List BuilderCall :=
  ((setup.layers.typed? .connectionPoolSize).toList.map fun (size : Int) =>
      .property connectionPoolSizeProperty (.int size)) ++
    (setup.layers.typed? .connectionTtl).toList.map fun (millis : Int) =>
      .property connectionTtlProperty (.int millis)

def calls (settled : setup.Resolved) : List BuilderCall :=
  match setup.variant with
  | .classic =>
    [.baseUrl settled.baseUrl] ++ settled.timeoutCalls ++
      (settled.providers ++ setup.annotationProviders).map .register ++
      (settled.trustAllCalls ++ settled.storeCalls) ++ settled.proxyCalls ++
      settled.followCalls ++ settled.queryStyleCalls ++ settled.poolCalls
  | .reactive =>
    [.baseUrl settled.baseUrl] ++ settled.timeoutCalls ++ settled.providers.map .register ++
      settled.storeCalls ++ (settled.redirectLimitCalls ++ settled.followCalls) ++
      settled.queryStyleCalls ++ settled.proxyCalls ++
      (settled.multipartCalls ++ settled.poolCalls)

/-! ### Resolved setups have faultless plans -/

theorem stagePlan_baseUrl (settled : setup.Resolved) :
    setup.stagePlan .baseUrl = [BuilderCall.baseUrl settled.baseUrl].map .ok := by
  unfold stagePlan
  rw [settled.baseUrl_resolves]
  rfl

theorem stagePlan_timeouts (settled : setup.Resolved) :
    setup.stagePlan .timeouts = settled.timeoutCalls.map .ok := by
  unfold stagePlan timeoutCalls
  rw [settled.connectTimeout_resolves, settled.readTimeout_resolves, List.map_append]
  exact congrArg₂ _ (Plan.told_ok_single _ _) (Plan.told_ok_single _ _)

theorem stagePlan_providers (settled : setup.Resolved) :
    setup.stagePlan .providers =
      ((settled.providers ++ setup.annotated).map BuilderCall.register).map .ok := by
  change setup.providerPlan = _
  unfold providerPlan
  rw [settled.providerNames_resolve]
  dsimp only
  rw [registrations_eq _ _ settled.providers_resolve, List.map_append, List.map_append,
    List.map_map (l := setup.annotated)]
  rfl

theorem stagePlan_tls (settled : setup.Resolved) :
    setup.stagePlan .tls = (settled.trustAllCalls ++ settled.storeCalls).map .ok := by
  unfold trustAllCalls storeCalls
  simp only [stagePlan]
  rw [settled.trustAllVerifier_resolves, settled.trustStore_resolves, settled.keyStore_resolves,
    settled.verifier_resolves, Plan.told_ok settled.trustAllVerifier]
  simp only [List.map_append, Plan.told_ok_single, List.append_assoc]

theorem stagePlan_proxy (settled : setup.Resolved) :
    setup.stagePlan .proxy = settled.proxyCalls.map .ok := by
  unfold stagePlan proxyCalls
  rw [settled.proxy_resolves]
  exact Plan.told_ok_single _ _

theorem stagePlan_followRedirects (settled : setup.Resolved) :
    setup.stagePlan .followRedirects = settled.followCalls.map .ok := by
  unfold stagePlan followCalls
  rw [settled.followRedirects_resolves]
  exact Plan.told_ok_single _ _

theorem stagePlan_redirects (settled : setup.Resolved) :
    setup.stagePlan .redirects =
      (settled.redirectLimitCalls ++ settled.followCalls).map .ok := by
  change propertyPlan maxRedirectsProperty setup.redirectLimit? ++
    setup.stagePlan .followRedirects = _
  unfold propertyPlan redirectLimitCalls
  rw [settled.redirectLimit_resolves, settled.stagePlan_followRedirects, Plan.told_ok_single,
    List.map_append]

theorem stagePlan_queryStyle (settled : setup.Resolved) :
    setup.stagePlan .queryStyle = settled.queryStyleCalls.map .ok := by
  unfold stagePlan queryStyleCalls
  rw [settled.queryStyle_resolves]
  exact Plan.told_ok_single _ _

theorem stagePlan_customProperties (settled : setup.Resolved) :
    setup.stagePlan .customProperties =
      (settled.multipartCalls ++ settled.poolCalls).map .ok := by
  unfold multipartCalls poolCalls
  simp only [stagePlan, propertyPlan]
  rw [settled.multipartMode_resolves, Plan.told_ok_single, List.map_append, List.map_append,
    List.append_assoc]
  have pool := Plan.told_ok_single (setup.layers.typed? .connectionPoolSize)
    fun (size : Int) => .property connectionPoolSizeProperty (.int size)
  have ttl := Plan.told_ok_single (setup.layers.typed? .connectionTtl)
    fun (millis : Int) => .property connectionTtlProperty (.int millis)
  exact congrArg _ (congrArg₂ _ pool ttl)

theorem trustAllVerifier_reactive (settled : setup.Resolved)
    (reactive : setup.variant = .reactive) : settled.trustAllVerifier = none := by
  have resolves := settled.trustAllVerifier_resolves
  unfold trustAllVerifier? at resolves
  rw [reactive] at resolves
  exact (Except.ok.inj resolves).symm

theorem redirectLimit_classic (settled : setup.Resolved) (classic : setup.variant = .classic) :
    settled.redirectLimit = none := by
  have resolves := settled.redirectLimit_resolves
  unfold redirectLimit? at resolves
  rw [classic] at resolves
  exact (Except.ok.inj resolves).symm

theorem multipartMode_classic (settled : setup.Resolved) (classic : setup.variant = .classic) :
    settled.multipartMode = none := by
  have resolves := settled.multipartMode_resolves
  unfold multipartMode? at resolves
  rw [classic] at resolves
  exact (Except.ok.inj resolves).symm

theorem plan_eq (settled : setup.Resolved) : setup.plan = settled.calls.map .ok := by
  unfold plan calls
  cases kind : setup.variant with
  | classic =>
      have limit : settled.redirectLimitCalls = [] := by
        rw [redirectLimitCalls, settled.redirectLimit_classic kind]
        rfl
      have multipart : settled.multipartCalls = [] := by
        rw [multipartCalls, settled.multipartMode_classic kind]
        rfl
      simp only [Variant.stages, List.flatMap_cons, List.flatMap_nil, List.append_nil,
        settled.stagePlan_baseUrl, settled.stagePlan_timeouts, settled.stagePlan_providers,
        settled.stagePlan_tls, settled.stagePlan_proxy, settled.stagePlan_redirects,
        settled.stagePlan_queryStyle, settled.stagePlan_customProperties,
        limit, multipart, ← List.map_append, List.nil_append, List.append_assoc, annotated, kind]
  | reactive =>
      have trustAll : settled.trustAllCalls = [] := by
        rw [trustAllCalls, settled.trustAllVerifier_reactive kind]
        rfl
      simp only [Variant.stages, List.flatMap_cons, List.flatMap_nil, List.append_nil,
        settled.stagePlan_baseUrl, settled.stagePlan_timeouts, settled.stagePlan_providers,
        settled.stagePlan_tls, settled.stagePlan_proxy, settled.stagePlan_redirects,
        settled.stagePlan_queryStyle, settled.stagePlan_customProperties,
        trustAll, ← List.map_append, List.nil_append, List.append_assoc, annotated, kind]

end Setup.Resolved

namespace Setup

/-! ### Faultless plans come from resolved setups -/

theorem baseUrl_of_faultless (setup : Setup)
    (faultless : Plan.fault? (setup.stagePlan .baseUrl) = none) :
    ∃ url, setup.baseUrl = .ok url := by
  unfold stagePlan at faultless
  cases found : setup.baseUrl with
  | error e =>
      rw [found] at faultless
      cases faultless
  | ok url => exact ⟨url, rfl⟩

theorem resolved_of_faultless (setup : Setup) (faultless : setup.plan.fault? = none) :
    Nonempty setup.Resolved := by
  unfold plan at faultless
  rw [Plan.fault?_flatMap_eq_none] at faultless
  have each : ∀ stage, stage ≠ .followRedirects → Plan.fault? (setup.stagePlan stage) = none := by
    intro stage other
    refine faultless stage ?_
    cases setup.variant <;> cases stage <;> first | decide | exact absurd rfl other
  have timeouts := each .timeouts nofun
  have tls := each .tls nofun
  have proxy := each .proxy nofun
  have redirects := each .redirects nofun
  have style := each .queryStyle nofun
  have custom := each .customProperties nofun
  simp only [stagePlan, propertyPlan, Plan.fault?_append_eq_none, Plan.fault?_told_eq_none]
    at timeouts tls proxy redirects style custom
  obtain ⟨baseUrl, baseUrlResolves⟩ := setup.baseUrl_of_faultless (each .baseUrl nofun)
  obtain ⟨⟨connectTimeout, connectResolves⟩, readTimeout, readResolves⟩ := timeouts
  obtain ⟨names, providers, namesResolve, providersResolve⟩ :=
    setup.providers_of_faultless (each .providers nofun)
  obtain ⟨⟨⟨⟨trustAll, trustAllResolves⟩, trustStore, trustStoreResolves⟩, keyStore,
    keyStoreResolves⟩, verifier, verifierResolves⟩ := tls
  obtain ⟨proxy, proxyResolves⟩ := proxy
  obtain ⟨⟨limit, limitResolves⟩, follow, followResolves⟩ := redirects
  obtain ⟨style, styleResolves⟩ := style
  obtain ⟨⟨⟨mode, modeResolves⟩, -⟩, -⟩ := custom
  exact ⟨{
    baseUrl := baseUrl
    connectTimeout := connectTimeout
    readTimeout := readTimeout
    providerNames := names
    providers := providers
    trustAllVerifier := trustAll
    trustStore := trustStore
    keyStore := keyStore
    verifier := verifier
    proxy := proxy
    redirectLimit := limit
    followRedirects := follow
    queryStyle := style
    multipartMode := mode
    baseUrl_resolves := baseUrlResolves
    connectTimeout_resolves := connectResolves
    readTimeout_resolves := readResolves
    providerNames_resolve := namesResolve
    providers_resolve := providersResolve
    trustAllVerifier_resolves := trustAllResolves
    trustStore_resolves := trustStoreResolves
    keyStore_resolves := keyStoreResolves
    verifier_resolves := verifierResolves
    proxy_resolves := proxyResolves
    redirectLimit_resolves := limitResolves
    followRedirects_resolves := followResolves
    queryStyle_resolves := styleResolves
    multipartMode_resolves := modeResolves }⟩

/-- The plan of a setup is faultless exactly if all of its settings resolve. -/
theorem faultless_iff_resolved (setup : Setup) :
    setup.plan.fault? = none ↔ Nonempty setup.Resolved := by
  constructor
  · exact setup.resolved_of_faultless
  · rintro ⟨settled⟩
    rw [settled.plan_eq, Plan.fault?_map_ok]

end Setup

end ClientWiring
