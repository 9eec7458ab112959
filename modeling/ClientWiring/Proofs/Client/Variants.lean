import ClientWiring.Proofs.Client.Told
set_option autoImplicit false

/-! What the two kinds of client share. Where nothing is set that only one kind takes, their stages
leave the builder of clients in the same state, or fail in both, though they run in another order
and may fail for another reason. -/

namespace ClientWiring

namespace Setup

def ofVariant (setup : Setup) (variant : Variant) : Setup :=
  { setup with variant := variant }

/-- Nothing is set that only one kind of client takes: no provider of an annotation and no switch
for all checks, no limit on redirects and no encoder mode. -/
structure Common (setup : Setup) : Prop where
  unannotated : setup.annotationProviders = []
  checking : setup.global? trustAllKey .flag = .ok none ∨
    setup.global? trustAllKey .flag = .ok (some false)
  unlimited : setup.layers.typed? .maxRedirects = none
  unlimitedGlobally : setup.source.raw? maxRedirectsKey = none
  modeless : setup.root.bind (·.encoderMode) = none
  modelessGlobally : setup.source.raw? encoderModeKey = none

namespace Common

variable {setup : Setup} (common : setup.Common) (variant : Variant)

include common

theorem annotated_eq : (setup.ofVariant variant).annotated = [] := by
  cases variant with
  | classic => exact common.unannotated
  | reactive => rfl

theorem trustAllVerifier?_eq : (setup.ofVariant variant).trustAllVerifier? = .ok none := by
  cases variant with
  | reactive => rfl
  | classic =>
      have switch : (setup.ofVariant .classic).global? trustAllKey .flag =
          setup.global? trustAllKey .flag := rfl
      unfold trustAllVerifier?
      rw [switch]
      rcases common.checking with unset | off
      · rw [unset]
        rfl
      · rw [off]
        rfl

theorem redirectLimit?_eq : (setup.ofVariant variant).redirectLimit? = .ok none := by
  cases variant with
  | classic => rfl
  | reactive =>
      change setup.maxRedirects? = .ok none
      unfold maxRedirects? Setup.global? Layers.global? PropertySource.get?
      rw [common.unlimited]
      dsimp only [layers]
      rw [common.unlimitedGlobally]
      rfl

theorem multipartMode?_eq : (setup.ofVariant variant).multipartMode? = .ok none := by
  cases variant with
  | classic => rfl
  | reactive =>
      change setup.encoderMode? = .ok none
      unfold encoderMode? Layers.encoderMode? Layers.global? PropertySource.get?
      dsimp only [layers]
      rw [common.modeless, common.modelessGlobally]
      rfl

end Common

/-- The kinds of client differ only in the keys that they name where no base URL is given. -/
theorem baseUrl_ofVariant [UrlReader] {setup : Setup} {variant : Variant} {url : String}
    (other : Variant) (resolves : (setup.ofVariant variant).baseUrl = .ok url) :
    (setup.ofVariant other).baseUrl = .ok url := by
  have same : (setup.ofVariant variant).givenBaseUrl? = (setup.ofVariant other).givenBaseUrl? := rfl
  unfold baseUrl at resolves ⊢
  rw [chosenBaseUrl_eq, same] at resolves
  rw [chosenBaseUrl_eq]
  cases given : (setup.ofVariant other).givenBaseUrl? with
  | error e =>
      rw [given] at resolves
      cases resolves
  | ok found =>
      rw [given] at resolves
      cases found with
      | none => cases resolves
      | some text => exact resolves

section Configure

variable [UrlReader] [StoreLibrary]

def configure {β ρ : Type} [ClientBuilder β ρ] (setup : Setup) : Step β Unit :=
  (setup.variant.stages.map setup.step).forM id

theorem run_configure {β ρ : Type} [ClientBuilder β ρ] (setup : Setup) (scene : Scene β) :
    (setup.configure : Step β Unit).run scene =
      ((setup.plan.outcome scene.builder).1,
        { scene with builder := (setup.plan.outcome scene.builder).2 }) := by
  unfold configure
  rw [steps_eq_perform]
  exact Plan.run_perform setup.plan scene

namespace Common

variable {setup : Setup} (common : setup.Common)

include common

/-- What resolves for one kind of client resolves to the same for another. -/
def resolved {variant : Variant} (settled : (setup.ofVariant variant).Resolved)
    (other : Variant) : (setup.ofVariant other).Resolved :=
  { settled with
    trustAllVerifier := none
    redirectLimit := none
    multipartMode := none
    baseUrl_resolves := baseUrl_ofVariant other settled.baseUrl_resolves
    trustAllVerifier_resolves := common.trustAllVerifier?_eq other
    redirectLimit_resolves := common.redirectLimit?_eq other
    multipartMode_resolves := common.multipartMode?_eq other }

theorem builder_resolved {variant : Variant} (settled : (setup.ofVariant variant).Resolved)
    (other : Variant) (asynchronous : Bool) (objects : List Instance) :
    (common.resolved settled other).builder asynchronous objects =
      settled.builder asynchronous objects := by
  have trustAll : settled.trustAllVerifier = none :=
    Except.ok.inj (settled.trustAllVerifier_resolves.symm.trans
      (common.trustAllVerifier?_eq variant))
  have limit : settled.redirectLimit = none :=
    Except.ok.inj (settled.redirectLimit_resolves.symm.trans (common.redirectLimit?_eq variant))
  have mode : settled.multipartMode = none :=
    Except.ok.inj (settled.multipartMode_resolves.symm.trans (common.multipartMode?_eq variant))
  unfold Resolved.builder Resolved.properties
  rw [trustAll, limit, mode]
  rfl

variable [TlsLibrary]

/-- The stages of one kind of client are carried out exactly if those of the other are, and leave
the same builder. -/
theorem outcome_ofVariant {variant : Variant} (other : Variant) {asynchronous : Bool}
    {told : HttpClientBuilder} (asynchronous' : Bool)
    (carried : (setup.ofVariant variant).plan.outcome (HttpClientBuilder.fresh asynchronous) =
      (.ok (), told)) :
    (setup.ofVariant other).plan.outcome (HttpClientBuilder.fresh asynchronous') =
      (.ok (), { told with asynchronous := asynchronous' }) := by
  obtain ⟨settled⟩ :=
    (setup.ofVariant variant).resolved_of_faultless (Plan.faultless_of_outcome carried)
  obtain ⟨objects, constructed, rfl⟩ :=
    (settled.outcome_fresh_eq_ok_iff asynchronous told).mp carried
  have registered : (common.resolved settled other).registered = settled.registered := by
    unfold Resolved.registered
    rw [common.annotated_eq, common.annotated_eq]
    rfl
  refine ((common.resolved settled other).outcome_fresh_eq_ok_iff asynchronous' _).mpr
    ⟨objects, registered ▸ constructed, ?_⟩
  rw [common.builder_resolved]
  rfl

end Common

/-- Where only common settings are given, the stages of both kinds of client bring a fresh builder to
the same state, in which it still waits for calls or does not, or the stages of both fail before
anything is built. -/
theorem configure_agrees [TlsLibrary] (setup : Setup) (common : setup.Common) (clientPrefix : String)
    (log : List Emitted) :
    let scene (asynchronous : Bool) : Scene HttpClientBuilder :=
      ⟨clientPrefix, log, .fresh asynchronous⟩
    let classic := ((setup.ofVariant .classic).configure : Step HttpClientBuilder Unit).run
      (scene false)
    let reactive := ((setup.ofVariant .reactive).configure : Step HttpClientBuilder Unit).run
      (scene true)
    (∃ told : HttpClientBuilder, classic = (.ok (), { scene false with builder := told }) ∧
      reactive = (.ok (), { scene true with builder := { told with asynchronous := true } })) ∨
    (∃ e e', classic.1 = .error e ∧ reactive.1 = .error e') := by
  intro scene classic reactive
  have classicRun : classic = _ := run_configure (setup.ofVariant .classic) (scene false)
  have reactiveRun : reactive = _ := run_configure (setup.ofVariant .reactive) (scene true)
  rw [classicRun, reactiveRun]
  rcases carried : (setup.ofVariant .classic).plan.outcome (HttpClientBuilder.fresh false) with
    ⟨e | _, told⟩
  · rcases carried' : (setup.ofVariant .reactive).plan.outcome (HttpClientBuilder.fresh true) with
      ⟨e' | _, told'⟩
    · exact .inr ⟨e, e', rfl, rfl⟩
    · have back := common.outcome_ofVariant .classic false carried'
      cases carried.symm.trans back
  · have also := common.outcome_ofVariant .reactive true carried
    refine .inl ⟨told, rfl, ?_⟩
    dsimp only [scene]
    rw [also]

end Configure

def sharing : Setup :=
  Sample.setup .classic [(trustAllKey, "off"), ("echo/mp-rest/connectTimeout", "250"),
    ("echo/mp-rest/proxyAddress", "proxy:3128"), ("acme.Echo/mp-rest/hostnameVerifier", "local")]

open scoped Sample in
theorem configure_agrees_sharing :
    ∃ told : HttpClientBuilder,
      ((sharing.ofVariant .classic).configure : Step HttpClientBuilder Unit).run
        ⟨"", [], .fresh false⟩ = (.ok (), ⟨"", [], told⟩) ∧
      ((sharing.ofVariant .reactive).configure : Step HttpClientBuilder Unit).run
        ⟨"", [], .fresh true⟩ = (.ok (), ⟨"", [], { told with asynchronous := true }⟩) ∧
      told.verifier.isSome ∧ told.proxy = some ⟨"proxy", 3128⟩ := by
  have common : sharing.Common :=
    { unannotated := rfl
      checking := .inr (by with_unfolding_all rfl)
      unlimited := rfl
      unlimitedGlobally := rfl
      modeless := rfl
      modelessGlobally := rfl }
  have succeeds : (((sharing.ofVariant .classic).configure : Step HttpClientBuilder Unit).run
      ⟨"", [], .fresh false⟩).1.toBool = true := by
    decide +kernel
  have keeps : (((sharing.ofVariant .classic).configure : Step HttpClientBuilder Unit).run
        ⟨"", [], .fresh false⟩).2.builder.verifier.isSome ∧
      (((sharing.ofVariant .classic).configure : Step HttpClientBuilder Unit).run
        ⟨"", [], .fresh false⟩).2.builder.proxy = some ⟨"proxy", 3128⟩ := by
    decide +kernel
  rcases sharing.configure_agrees common "" [] with ⟨told, classic, reactive⟩ | ⟨e, _, failed, -⟩
  · rw [classic] at keeps
    exact ⟨told, classic, reactive, keeps⟩
  · rw [failed] at succeeds
    cases succeeds

end Setup

end ClientWiring
