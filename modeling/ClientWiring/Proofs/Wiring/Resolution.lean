import ClientWiring.Proofs.Wiring.Plan
set_option autoImplicit false

/-! What the settings of a client resolve to, and the plan that they make. The stages of a
construction carry out this plan, with any builder. -/

namespace ClientWiring

namespace Setup

section Plan

variable [UrlReader] [StoreLibrary]

def baseUrl (setup : Setup) : Except WiringError String := do
  let url ← setup.chosenBaseUrl
  checkBaseUrl url
  pure url

def givenBaseUrl? (setup : Setup) : Except WiringError (Option String) := do
  match ← setup.setting? .uri with
  | some uri => pure (some uri)
  | none =>
    match ← setup.setting? .url with
    | some url => pure (some url)
    | none => pure (setup.annotationUri.filter fun uri => !uri.isEmpty)

def TrustsAll (setup : Setup) : Prop :=
  setup.variant = .classic ∧ setup.global? trustAllKey .flag = .ok (some true)

def trustAllVerifier? (setup : Setup) : Except WiringError (Option Instance) :=
  match setup.variant with
  | .reactive => .ok none
  | .classic => do
    match ← setup.global? trustAllKey .flag with
    | some true =>
      (verifierInstance setup.registry setup.around.library Verifier.noopRegisteredName).map some
    | _ => pure none

def trustStore? (setup : Setup) : Except WiringError (Option TrustStore) := do
  match ← setup.setting? .trustStore with
  | none => pure none
  | some location =>
    let settings ← setup.trustStoreSettings location
    let store ← (setup.around.loadTrustStore settings (some setup.interface.module)).mapError
      WiringError.ofStoreError
    pure (some store)

def keyStore? (setup : Setup) : Except WiringError (Option (KeyStore × Option String)) := do
  match ← setup.setting? .keyStore with
  | none => pure none
  | some location =>
    let settings ← setup.keyStoreSettings location
    let store ← (setup.around.loadKeyStore settings (some setup.interface.module)).mapError
      WiringError.ofStoreError
    pure (some (store, settings.password))

def verifier? (setup : Setup) : Except WiringError (Option Instance) := do
  match ← setup.setting? .hostnameVerifier with
  | none => pure none
  | some name => (verifierInstance setup.registry setup.around.library name).map some

def proxy? (setup : Setup) : Except WiringError (Option ProxyAddress) := do
  match ← setup.setting? .proxyAddress with
  | none => pure none
  | some text => ((ProxyAddress.parse text).mapError WiringError.config).map some

def redirectLimit? (setup : Setup) : Except WiringError (Option Int) :=
  match setup.variant with
  | .classic => .ok none
  | .reactive => setup.maxRedirects?

def multipartMode? (setup : Setup) : Except WiringError (Option EncoderMode) :=
  match setup.variant with
  | .classic => .ok none
  | .reactive => setup.encoderMode?

def annotated (setup : Setup) : List ClassInfo :=
  match setup.variant with
  | .classic => setup.annotationProviders
  | .reactive => []

def configuredNames (setup : Setup) : Except WiringError (List String) :=
  (setup.setting? .providers).map fun names => (names.map providerNames).getD []

def registration (setup : Setup) (name : String) : Instruction :=
  (providerClass setup.registry setup.around.library name).map .register

def providerPlan (setup : Setup) : Plan :=
  (match setup.configuredNames with
    | .error e => [.error e]
    | .ok names => names.map setup.registration) ++
    setup.annotated.map fun info => .ok (.register info)

def propertyPlan (name : String) (value : Except WiringError (Option Int)) : Plan :=
  Plan.told value fun n => [.property name (.int n)]

def stagePlan (setup : Setup) : Stage → Plan
  | .baseUrl => Plan.told (setup.baseUrl.map some) fun url => [.baseUrl url]
  | .timeouts =>
    Plan.told (setup.setting? .connectTimeout) (fun millis => [.connectTimeout (.int millis)]) ++
      Plan.told (setup.setting? .readTimeout) fun millis => [.readTimeout (.int millis)]
  | .providers => setup.providerPlan
  | .tls =>
    Plan.told setup.trustAllVerifier?
        (fun verifier => [.hostnameVerifier verifier, .tlsContext .trustAll]) ++
      Plan.told setup.trustStore? (fun store => [.trustStore store]) ++
      Plan.told setup.keyStore? (fun (store, password) => [.keyStore store password]) ++
      Plan.told setup.verifier? fun verifier => [.hostnameVerifier verifier]
  | .proxy => Plan.told setup.proxy? fun address => [.proxyAddress address]
  | .redirects =>
    propertyPlan maxRedirectsProperty setup.redirectLimit? ++
      Plan.told (setup.setting? .followRedirects) fun follow => [.followRedirects follow]
  | .followRedirects =>
    Plan.told (setup.setting? .followRedirects) fun follow => [.followRedirects follow]
  | .queryStyle => Plan.told (setup.setting? .queryParamStyle) fun style => [.queryStyle style]
  | .customProperties =>
    Plan.told setup.multipartMode? (fun mode => [.property encoderModeProperty (.encoder mode)]) ++
      propertyPlan connectionPoolSizeProperty (.ok (setup.layers.typed? .connectionPoolSize)) ++
      propertyPlan connectionTtlProperty (.ok (setup.layers.typed? .connectionTtl))

/-- The plan of a construction: the plans of its stages, in the order of its kind of client. -/
def plan (setup : Setup) : Plan :=
  setup.variant.stages.flatMap setup.stagePlan

end Plan

/-! ### The stages carry out the plan -/

section Stages

variable {β ρ : Type} [ClientBuilder β ρ]

theorem ok_bind {ε α γ : Type} (a : α) (next : α → Except ε γ) :
    (Except.ok a >>= next) = next a := rfl

theorem ofExcept_ok {ε α : Type} (toError : ε → WiringError) (a : α) :
    (Step.ofExcept toError (.ok a) : Step β α) = pure a := rfl

theorem perform_single (call : BuilderCall) :
    (Plan.perform [.ok call] : Step β Unit) = Step.tell call := by
  rw [Plan.perform_ok, Plan.perform_nil, bind_pure_unit]

theorem tellSetting_eq_perform (setup : Setup) (setting : Setting)
    (call : setting.Carrier → BuilderCall) :
    (setup.tellSetting setting call : Step β Unit) =
      Plan.perform (Plan.told (setup.setting? setting) fun value => [call value]) := by
  unfold tellSetting
  cases setup.setting? setting with
  | error e => rfl
  | ok found =>
      cases found with
      | none => rfl
      | some value => exact (perform_single _).symm

theorem registerProviders_eq_perform (setup : Setup) (names : List String) :
    (names.forM setup.registerProvider : Step β Unit) =
      Plan.perform (names.map setup.registration) := by
  induction names with
  | nil => rfl
  | cons name rest ih =>
      change (setup.registerProvider name >>= fun _ => rest.forM setup.registerProvider) = _
      rw [ih, List.map_cons]
      unfold registerProvider registration
      cases providerClass setup.registry setup.around.library name <;> rfl

theorem registerAnnotated_eq_perform (classes : List ClassInfo) :
    (classes.forM fun info => Step.tell (.register info) : Step β Unit) =
      Plan.perform (classes.map fun info => .ok (.register info)) := by
  induction classes with
  | nil => rfl
  | cons info rest ih =>
      rw [List.map_cons, Plan.perform_ok, ← ih]
      rfl

theorem configureTrustAll_eq_perform (setup : Setup) (classic : setup.variant = .classic) :
    (setup.configureTrustAll : Step β Unit) =
      Plan.perform (Plan.told setup.trustAllVerifier?
        fun verifier => [.hostnameVerifier verifier, .tlsContext .trustAll]) := by
  unfold configureTrustAll trustAllVerifier? installVerifier
  rw [classic]
  cases setup.global? trustAllKey .flag with
  | error e => rfl
  | ok found =>
      simp only [ofExcept_ok, pure_bind, ok_bind]
      rcases found with _ | _ | _
      · rfl
      · rfl
      · cases verifierInstance setup.registry setup.around.library Verifier.noopRegisteredName with
        | error e => rfl
        | ok verifier =>
            simp only [ofExcept_ok, pure_bind]
            rw [← perform_single (.tlsContext .trustAll)]
            rfl

theorem configureVerifier_eq_perform (setup : Setup) :
    (setup.configureVerifier : Step β Unit) =
      Plan.perform (Plan.told setup.verifier? fun verifier => [.hostnameVerifier verifier]) := by
  unfold configureVerifier verifier? installVerifier
  cases setup.setting? .hostnameVerifier with
  | error e => rfl
  | ok found =>
      cases found with
      | none => rfl
      | some name =>
          simp only [ofExcept_ok, pure_bind, ok_bind]
          cases verifierInstance setup.registry setup.around.library name with
          | error e => rfl
          | ok verifier => exact (perform_single _).symm

theorem tellProperty_eq_perform (name : String) (value : Option Int) :
    (tellProperty name value : Step β Unit) = Plan.perform (propertyPlan name (.ok value)) := by
  cases value with
  | none => rfl
  | some n => exact (perform_single _).symm

theorem tellPoolProperties_eq_perform (size ttl : Option Int) :
    (do
      tellProperty connectionPoolSizeProperty size
      tellProperty connectionTtlProperty ttl : Step β Unit) =
      (do
        Plan.perform (propertyPlan connectionPoolSizeProperty (.ok size))
        Plan.perform (propertyPlan connectionTtlProperty (.ok ttl))) := by
  rw [← tellProperty_eq_perform, ← tellProperty_eq_perform]

section Stores

variable [StoreLibrary]

theorem configureTrustStore_eq_perform (setup : Setup) :
    (setup.configureTrustStore : Step β Unit) =
      Plan.perform (Plan.told setup.trustStore? fun store => [.trustStore store]) := by
  unfold configureTrustStore trustStore?
  cases setup.setting? .trustStore with
  | error e => rfl
  | ok found =>
      cases found with
      | none => rfl
      | some location =>
          simp only [ofExcept_ok, pure_bind, ok_bind]
          cases setup.trustStoreSettings location with
          | error e => rfl
          | ok settings =>
              simp only [ofExcept_ok, pure_bind, ok_bind]
              cases setup.around.loadTrustStore settings (some setup.interface.module) with
              | error e => rfl
              | ok store => exact (perform_single _).symm

theorem configureKeyStore_eq_perform (setup : Setup) :
    (setup.configureKeyStore : Step β Unit) =
      Plan.perform (Plan.told setup.keyStore?
        fun (store, password) => [.keyStore store password]) := by
  unfold configureKeyStore keyStore?
  cases setup.setting? .keyStore with
  | error e => rfl
  | ok found =>
      cases found with
      | none => rfl
      | some location =>
          simp only [ofExcept_ok, pure_bind, ok_bind]
          cases setup.keyStoreSettings location with
          | error e => rfl
          | ok settings =>
              simp only [ofExcept_ok, pure_bind, ok_bind]
              cases setup.around.loadKeyStore settings (some setup.interface.module) with
              | error e => rfl
              | ok store => exact (perform_single _).symm

end Stores

variable [UrlReader] [StoreLibrary]

theorem configureBaseUrl_eq_perform (setup : Setup) :
    (setup.configureBaseUrl : Step β Unit) = Plan.perform (setup.stagePlan .baseUrl) := by
  unfold configureBaseUrl stagePlan baseUrl
  cases setup.chosenBaseUrl with
  | error e => rfl
  | ok url =>
      simp only [ofExcept_ok, pure_bind, ok_bind]
      cases checkBaseUrl url with
      | error e => rfl
      | ok valid => exact (perform_single _).symm

theorem configureTimeouts_eq_perform (setup : Setup) :
    (setup.configureTimeouts : Step β Unit) = Plan.perform (setup.stagePlan .timeouts) := by
  unfold configureTimeouts stagePlan
  rw [Plan.perform_append, tellSetting_eq_perform, tellSetting_eq_perform]

theorem configureProviders_eq_perform (setup : Setup) :
    (setup.configureProviders : Step β Unit) = Plan.perform (setup.stagePlan .providers) := by
  change _ = Plan.perform setup.providerPlan
  unfold providerPlan
  rw [Plan.perform_append, ← registerAnnotated_eq_perform]
  unfold configureProviders configuredNames annotated
  cases setup.setting? .providers with
  | error e => rfl
  | ok found =>
      cases found with
      | none => cases setup.variant <;> rfl
      | some names =>
          simp only [ofExcept_ok, pure_bind, registerProviders_eq_perform]
          cases setup.variant <;> rfl

theorem configureTls_eq_perform (setup : Setup) :
    (setup.configureTls : Step β Unit) = Plan.perform (setup.stagePlan .tls) := by
  unfold configureTls stagePlan
  simp only [Plan.perform_append, bind_assoc]
  rw [configureTrustStore_eq_perform, configureKeyStore_eq_perform, configureVerifier_eq_perform]
  cases kind : setup.variant with
  | classic => simp only [← configureTrustAll_eq_perform setup kind]
  | reactive =>
      have untouched : setup.trustAllVerifier? = .ok none := by
        unfold trustAllVerifier?
        rw [kind]
      rw [untouched]
      rfl

theorem configureProxy_eq_perform (setup : Setup) :
    (setup.configureProxy : Step β Unit) = Plan.perform (setup.stagePlan .proxy) := by
  unfold configureProxy stagePlan proxy?
  cases setup.setting? .proxyAddress with
  | error e => rfl
  | ok found =>
      cases found with
      | none => rfl
      | some text =>
          simp only [ofExcept_ok, pure_bind, ok_bind]
          cases ProxyAddress.parse text with
          | error e => rfl
          | ok address => exact (perform_single _).symm

theorem configureFollowRedirects_eq_perform (setup : Setup) :
    (setup.configureFollowRedirects : Step β Unit) =
      Plan.perform (setup.stagePlan .followRedirects) :=
  setup.tellSetting_eq_perform .followRedirects .followRedirects

theorem configureRedirects_eq_perform (setup : Setup) :
    (setup.configureRedirects : Step β Unit) = Plan.perform (setup.stagePlan .redirects) := by
  change _ = Plan.perform
    (propertyPlan maxRedirectsProperty setup.redirectLimit? ++ setup.stagePlan .followRedirects)
  unfold configureRedirects redirectLimit? propertyPlan
  rw [Plan.perform_append, configureFollowRedirects_eq_perform]
  cases setup.variant with
  | classic => simp only [Plan.told, Plan.perform_nil, pure_bind]
  | reactive =>
      cases setup.maxRedirects? with
      | error e => rfl
      | ok found =>
          cases found with
          | none => rfl
          | some limit =>
              simp only [ofExcept_ok, pure_bind, Plan.told, List.map_cons, List.map_nil,
                perform_single]

theorem configureCustomProperties_eq_perform (setup : Setup) :
    (setup.configureCustomProperties : Step β Unit) =
      Plan.perform (setup.stagePlan .customProperties) := by
  unfold configureCustomProperties stagePlan multipartMode?
  simp only [Plan.perform_append, bind_assoc]
  cases setup.variant with
  | classic =>
      simp only [Plan.told, Plan.perform_nil, pure_bind]
      exact tellPoolProperties_eq_perform _ _
  | reactive =>
      cases setup.encoderMode? with
      | error e => rfl
      | ok found =>
          simp only [ofExcept_ok, pure_bind]
          cases found with
          | none =>
              simp only [Plan.told, Plan.perform_nil, pure_bind]
              exact tellPoolProperties_eq_perform _ _
          | some mode =>
              simp only [Plan.told, List.map_cons, List.map_nil, perform_single]
              exact bind_congr fun _ => tellPoolProperties_eq_perform _ _

/-- A stage tells a builder its plan and nothing else. -/
theorem step_eq_perform (setup : Setup) (stage : Stage) :
    (setup.step stage : Step β Unit) = Plan.perform (setup.stagePlan stage) := by
  cases stage with
  | baseUrl => exact setup.configureBaseUrl_eq_perform
  | timeouts => exact setup.configureTimeouts_eq_perform
  | providers => exact setup.configureProviders_eq_perform
  | tls => exact setup.configureTls_eq_perform
  | proxy => exact setup.configureProxy_eq_perform
  | redirects => exact setup.configureRedirects_eq_perform
  | followRedirects => exact setup.tellSetting_eq_perform _ _
  | queryStyle => exact setup.tellSetting_eq_perform _ _
  | customProperties => exact setup.configureCustomProperties_eq_perform

theorem steps_eq_perform (setup : Setup) (stages : List Stage) :
    ((stages.map setup.step).forM id : Step β Unit) =
      Plan.perform (stages.flatMap setup.stagePlan) := by
  induction stages with
  | nil => rfl
  | cons stage rest ih =>
      change (setup.step stage >>= fun _ => (rest.map setup.step).forM id) = _
      rw [ih, step_eq_perform, List.flatMap_cons, Plan.perform_append]

end Stages

/-! ### The base URL -/

theorem chosenBaseUrl_eq (setup : Setup) :
    setup.chosenBaseUrl =
      setup.givenBaseUrl?.bind fun given => given.elim (.error setup.missingBaseUrl) .ok := by
  unfold chosenBaseUrl givenBaseUrl?
  cases setup.setting? .uri with
  | error e => rfl
  | ok uri =>
      cases uri with
      | some text => rfl
      | none =>
          simp only [ok_bind]
          cases setup.setting? .url with
          | error e => rfl
          | ok url =>
              cases url with
              | some text => rfl
              | none =>
                  simp only [ok_bind]
                  cases setup.annotationUri with
                  | none => rfl
                  | some uri =>
                      simp only [Option.filter_some]
                      cases uri.isEmpty <;> rfl

end Setup

end ClientWiring
