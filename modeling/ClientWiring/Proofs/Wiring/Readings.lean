import ClientWiring.Proofs.Config.Legacy
import ClientWiring.Proofs.Wiring.Resolved
import ClientWiring.Proofs.Wiring.Run
set_option autoImplicit false

/-! What a construction reads of its configuration: the settings of its client, three global
properties, and the typed settings that have no legacy name. Two configurations that agree on these
cannot be told apart by any builder. A setting that cannot be decoded lets every construction
fail. -/

namespace ClientWiring

/-! ### The text that decides a setting -/
namespace Layers

def textUnder? (layers : Layers) (owner name : String) : Option (String × String) :=
  (layers.source.raw? (legacyKey owner name)).map fun text => (legacyKey owner name, text)

def firstText? (layers : Layers) (name : String) : Option (String × String) :=
  (layers.textUnder? layers.interfaceName name).or (layers.textUnder? layers.owner name)

theorem firstText?_congr {layers other : Layers} {name : String}
    (interfaceName : layers.interfaceName = other.interfaceName)
    (owner : layers.owner = other.owner)
    (texts : ∀ holder, holder = layers.interfaceName ∨ holder = layers.owner →
      layers.source.raw? (legacyKey holder name) = other.source.raw? (legacyKey holder name)) :
    layers.firstText? name = other.firstText? name := by
  unfold firstText? textUnder?
  rw [← interfaceName, ← owner, texts _ (.inl rfl), texts _ (.inr rfl)]

def decodeText? (kind : Kind) (found : Option (String × String)) :
    Except ConfigError (Option kind.Carrier) :=
  match found with
  | none => .ok none
  | some (key, text) =>
    match kind.decode (.text text) with
    | .ok value => .ok (some value)
    | .error _ => .error (.invalidValue text key kind.name)

theorem get?_eq_decodeText? (layers : Layers) (owner name : String) (kind : Kind) :
    layers.source.get? (legacyKey owner name) kind =
      decodeText? kind (layers.textUnder? owner name) := by
  unfold PropertySource.get? textUnder?
  cases layers.source.raw? (legacyKey owner name) <;> rfl

theorem legacy?_eq (layers : Layers) (name : String) (kind : Kind) :
    layers.legacy? name kind = decodeText? kind (layers.firstText? name) := by
  unfold legacy? firstText?
  rw [get?_eq_decodeText?, get?_eq_decodeText?]
  cases layers.textUnder? layers.interfaceName name with
  | none => rfl
  | some found =>
      simp only [Option.some_or, decodeText?]
      cases kind.decode (.text found.2) <;> rfl

theorem setting?_of_typed {layers : Layers} {setting : Setting} {value : setting.Carrier}
    (typed : layers.typed? setting = some value) : layers.setting? setting = .ok (some value) := by
  unfold setting?
  rw [typed]

theorem setting?_of_untyped {layers : Layers} {setting : Setting} {name : String}
    (untyped : layers.typed? setting = none) (named : setting.legacyName? = some name) :
    layers.setting? setting = decodeText? setting.kind (layers.firstText? name) := by
  unfold setting?
  rw [untyped, named]
  exact layers.legacy?_eq name setting.kind

theorem setting?_of_unnamed {layers : Layers} {setting : Setting}
    (unnamed : setting.legacyName? = none) :
    layers.setting? setting = .ok (layers.typed? setting) := by
  unfold setting?
  rw [unnamed]
  cases layers.typed? setting <;> rfl

theorem decodeText?_ok {kind : Kind} (textual : kind = .text) (found : Option (String × String)) :
    ∃ value, decodeText? kind found = .ok value := by
  subst textual
  cases found with
  | none => exact ⟨none, rfl⟩
  | some entry => exact ⟨some entry.2, rfl⟩

/-- A setting is refused for nothing but the text under one of its keys. -/
theorem setting?_eq_error {layers : Layers} {setting : Setting} {e : ConfigError}
    (failed : layers.setting? setting = .error e) :
    ∃ text key, e = .invalidValue text key setting.kind.name := by
  cases typed : layers.typed? setting with
  | some value =>
      rw [setting?_of_typed typed] at failed
      cases failed
  | none =>
      cases named : setting.legacyName? with
      | none =>
          rw [setting?_of_unnamed named] at failed
          cases failed
      | some name =>
          rw [setting?_of_untyped typed named] at failed
          cases first : layers.firstText? name with
          | none =>
              rw [first] at failed
              cases failed
          | some found =>
              rw [first, decodeText?] at failed
              split at failed
              · cases failed
              · cases failed
                exact ⟨found.2, found.1, rfl⟩

/-- A setting without a value has none in any layer. -/
theorem unset_layers {layers : Layers} {setting : Setting} {name : String}
    (named : setting.legacyName? = some name) (unset : layers.setting? setting = .ok none) :
    layers.typed? setting = none ∧ layers.firstText? name = none := by
  cases typed : layers.typed? setting with
  | some value =>
      rw [setting?_of_typed typed] at unset
      cases unset
  | none =>
      rw [setting?_of_untyped typed named] at unset
      cases first : layers.firstText? name with
      | none => exact ⟨rfl, rfl⟩
      | some found =>
          rw [first, decodeText?] at unset
          split at unset <;> cases unset

/-! ### Configurations that read alike -/

def globalKeys : List String := [Setup.trustAllKey, Setup.maxRedirectsKey, Setup.encoderModeKey]

theorem slash_not_mem_globalKey {key : String} (member : key ∈ globalKeys) :
    '/' ∉ key.toList := by
  simp only [globalKeys, List.mem_cons, List.not_mem_nil, or_false] at member
  obtain rfl | rfl | rfl := member
  · decide
  · decide
  · decide

structure ReadsAlike (layers other : Layers) : Prop where
  setting : ∀ setting, layers.setting? setting = other.setting? setting
  typed : ∀ setting : Setting, setting.legacyName? = none →
    layers.typed? setting = other.typed? setting
  global : ∀ key ∈ globalKeys, ∀ kind, layers.global? key kind = other.global? key kind
  encoderMode : layers.root.bind (·.encoderMode) = other.root.bind (·.encoderMode)

/-- A setting is decided by its typed value, and where there is none by its first text. -/
theorem setting?_congr {layers other : Layers} {setting : Setting}
    (typed : layers.typed? setting = other.typed? setting)
    (text : ∀ name, setting.legacyName? = some name → layers.typed? setting = none →
      layers.firstText? name = other.firstText? name) :
    layers.setting? setting = other.setting? setting := by
  cases found : layers.typed? setting with
  | some value => rw [setting?_of_typed found, setting?_of_typed (typed.symm.trans found)]
  | none =>
      cases named : setting.legacyName? with
      | none => rw [setting?_of_unnamed named, setting?_of_unnamed named, typed]
      | some name =>
          rw [setting?_of_untyped found named, setting?_of_untyped (typed.symm.trans found) named,
            text name named found]

/-- Layers with the same typed values read alike if they have the same texts where no typed value
decides. -/
theorem readsAlike_of_texts {layers other : Layers}
    (client : layers.clientConfig? = other.clientConfig?)
    (mode : layers.root.bind (·.encoderMode) = other.root.bind (·.encoderMode))
    (globals : ∀ key ∈ globalKeys, layers.source.raw? key = other.source.raw? key)
    (texts : ∀ (setting : Setting) (name : String), setting.legacyName? = some name →
      layers.typed? setting = none → layers.firstText? name = other.firstText? name) :
    layers.ReadsAlike other := by
  have typed (setting : Setting) : layers.typed? setting = other.typed? setting := by
    unfold typed?
    rw [client]
  refine ⟨?_, fun setting _ => typed setting, ?_, mode⟩
  · intro setting
    exact setting?_congr (typed setting) (texts setting)
  · intro key member kind
    exact PropertySource.get?_congr (globals key member) kind

end Layers

namespace Setup

def configured (setup : Setup) (root : Option ConfigRoot) (source : PropertySource) : Setup :=
  { setup with root := root, source := source }

/-! ### One plan -/

section Plan

variable {setup : Setup} {root : Option ConfigRoot} {source : PropertySource}
  (alike : (setup.configured root source).layers.ReadsAlike setup.layers)

include alike

theorem setting?_configured (setting : Setting) :
    (setup.configured root source).setting? setting = setup.setting? setting :=
  congrArg (Except.mapError WiringError.config) (alike.setting setting)

theorem global?_configured {key : String} (member : key ∈ Layers.globalKeys) (kind : Kind) :
    (setup.configured root source).global? key kind = setup.global? key kind :=
  congrArg (Except.mapError WiringError.config) (alike.global key member kind)

theorem baseUrl_configured [UrlReader] : (setup.configured root source).baseUrl = setup.baseUrl := by
  unfold baseUrl chosenBaseUrl
  rw [setting?_configured alike, setting?_configured alike]
  rfl

theorem providerPlan_configured :
    (setup.configured root source).providerPlan = setup.providerPlan := by
  unfold providerPlan configuredNames
  rw [setting?_configured alike]
  rfl

theorem trustAllVerifier?_configured :
    (setup.configured root source).trustAllVerifier? = setup.trustAllVerifier? := by
  unfold trustAllVerifier?
  rw [global?_configured alike (by decide)]
  rfl

theorem trustStore?_configured [StoreLibrary] :
    (setup.configured root source).trustStore? = setup.trustStore? := by
  unfold trustStore? trustStoreSettings
  rw [setting?_configured alike, setting?_configured alike, setting?_configured alike]
  rfl

theorem keyStore?_configured [StoreLibrary] :
    (setup.configured root source).keyStore? = setup.keyStore? := by
  unfold keyStore? keyStoreSettings
  rw [setting?_configured alike, setting?_configured alike, setting?_configured alike]
  rfl

theorem verifier?_configured : (setup.configured root source).verifier? = setup.verifier? := by
  unfold verifier?
  rw [setting?_configured alike]
  rfl

theorem proxy?_configured : (setup.configured root source).proxy? = setup.proxy? := by
  unfold proxy?
  rw [setting?_configured alike]

theorem redirectLimit?_configured :
    (setup.configured root source).redirectLimit? = setup.redirectLimit? := by
  unfold redirectLimit? maxRedirects?
  rw [alike.typed .maxRedirects rfl, global?_configured alike (by decide)]
  rfl

theorem multipartMode?_configured :
    (setup.configured root source).multipartMode? = setup.multipartMode? := by
  unfold multipartMode? encoderMode? Layers.encoderMode?
  rw [alike.encoderMode, alike.global encoderModeKey (by decide)]
  rfl

variable [UrlReader] [StoreLibrary]

theorem stagePlan_configured (stage : Stage) :
    (setup.configured root source).stagePlan stage = setup.stagePlan stage := by
  cases stage with
  | baseUrl => simp only [stagePlan, baseUrl_configured alike]
  | timeouts => simp only [stagePlan, setting?_configured alike]
  | providers => simp only [stagePlan, providerPlan_configured alike]
  | tls =>
      simp only [stagePlan, trustAllVerifier?_configured alike, trustStore?_configured alike,
        keyStore?_configured alike, verifier?_configured alike]
  | proxy => simp only [stagePlan, proxy?_configured alike]
  | redirects =>
      simp only [stagePlan, redirectLimit?_configured alike, setting?_configured alike]
  | followRedirects => simp only [stagePlan, setting?_configured alike]
  | queryStyle => simp only [stagePlan, setting?_configured alike]
  | customProperties =>
      simp only [stagePlan, multipartMode?_configured alike,
        alike.typed .connectionPoolSize rfl, alike.typed .connectionTtl rfl]

theorem plan_configured : (setup.configured root source).plan = setup.plan := by
  unfold plan
  exact congrArg (fun planOf => setup.variant.stages.flatMap planOf)
    (funext (stagePlan_configured alike))

end Plan

/-! ### Setups that no builder tells apart -/

theorem construct_congr {β ρ : Type} (audit : Audit) (elapsed : Double)
    {steps others : List (Step β Unit)} (build : Step β ρ) (same : steps.forM id = others.forM id) :
    construct audit elapsed steps build = construct audit elapsed others build := by
  unfold construct
  rw [same]

variable [UrlReader] [StoreLibrary]

/-- Two setups resolve every setting alike, and lead every builder from the same scene to the same
result, through the same calls and with the same records. -/
structure Indistinguishable (setup other : Setup) : Prop where
  settings : ∀ setting, setup.setting? setting = other.setting? setting
  constructions : ∀ {β ρ : Type} [ClientBuilder β ρ] (elapsed : Double),
    (setup.create elapsed : Step β ρ) = other.create elapsed

theorem create_congr {β ρ : Type} [ClientBuilder β ρ] {setup other : Setup}
    (interface : setup.interface = other.interface) (plan : setup.plan = other.plan)
    (elapsed : Double) (scene : Scene β) :
    ((setup.create elapsed : Step β ρ).run scene).1 =
        ((other.create elapsed : Step β ρ).run scene).1 ∧
      ((setup.create elapsed : Step β ρ).run scene).2.builder =
        ((other.create elapsed : Step β ρ).run scene).2.builder := by
  have ends := setup.create_eq_constructed elapsed scene
  rw [interface, plan, ← other.create_eq_constructed elapsed scene] at ends
  exact Prod.mk.inj ends

/-- Configurations that read alike are not told apart, if both have typed settings of the client or
neither has: the records say which. -/
theorem indistinguishable_of_readsAlike {setup : Setup} {root : Option ConfigRoot}
    {source : PropertySource} (alike : (setup.configured root source).layers.ReadsAlike setup.layers)
    (typed : (setup.configured root source).layers.clientConfig?.isSome =
      setup.layers.clientConfig?.isSome) :
    setup.Indistinguishable (setup.configured root source) where
  settings setting := (setting?_configured alike setting).symm
  constructions := by
    intro β ρ _ elapsed
    have audit : (setup.configured root source).audit = setup.audit :=
      congrArg (Audit.mk setup.owner setup.interface.name setup.variant.name) typed
    have steps : ((setup.variant.stages.map (setup.configured root source).step).forM id :
        Step β Unit) = (setup.variant.stages.map setup.step).forM id := by
      rw [steps_eq_perform, steps_eq_perform]
      exact congrArg Plan.perform (plan_configured alike)
    unfold create
    rw [audit]
    exact (construct_congr setup.audit elapsed (Step.build setup.interface) steps).symm

/-! ### Settings that let a construction fail -/

theorem create_fails {β ρ : Type} [ClientBuilder β ρ] {setup : Setup}
    (faulty : setup.plan.fault? ≠ none) (elapsed : Double) (scene : Scene β) :
    ∃ e, ((setup.create elapsed : Step β ρ).run scene).1 = .error e := by
  have whole : ((setup.create elapsed : Step β ρ).run scene).1 =
      (setup.plan.constructed setup.interface scene.builder).1 :=
    congrArg Prod.fst (setup.create_eq_constructed elapsed scene)
  rw [whole]
  unfold Plan.constructed
  rcases carried : setup.plan.outcome scene.builder with ⟨e | _, told⟩
  · exact ⟨e, rfl⟩
  · exact absurd (Plan.faultless_of_outcome carried) faulty

/-- A text always resolves, and every other setting of both sources is resolved by a setup whose
settings all resolve. -/
theorem Resolved.setting?_ok {setup : Setup} (settled : setup.Resolved) {setting : Setting}
    {name : String} (named : setting.legacyName? = some name) :
    ∃ found, setup.setting? setting = .ok found := by
  have textual (kind : setting.kind = .text) : ∃ found, setup.setting? setting = .ok found := by
    unfold Setup.setting?
    cases typed : setup.layers.typed? setting with
    | some value => exact ⟨some value, by rw [Layers.setting?_of_typed typed]; rfl⟩
    | none =>
        obtain ⟨found, decoded⟩ := Layers.decodeText?_ok kind (setup.layers.firstText? name)
        exact ⟨found, by rw [Layers.setting?_of_untyped typed named, decoded]; rfl⟩
  cases setting with
  | connectTimeout => exact ⟨_, settled.connectTimeout_resolves⟩
  | readTimeout => exact ⟨_, settled.readTimeout_resolves⟩
  | followRedirects => exact ⟨_, settled.followRedirects_resolves⟩
  | queryParamStyle => exact ⟨_, settled.queryStyle_resolves⟩
  | connectionTtl => cases named
  | connectionPoolSize => cases named
  | maxRedirects => cases named
  | _ => exact textual rfl

/-- A setting of both sources that cannot be resolved lets every construction fail. -/
theorem create_fails_of_setting {β ρ : Type} [ClientBuilder β ρ] {setup : Setup}
    {setting : Setting} {name : String} {e : WiringError}
    (named : setting.legacyName? = some name) (failed : setup.setting? setting = .error e)
    (elapsed : Double) (scene : Scene β) :
    ∃ e, ((setup.create elapsed : Step β ρ).run scene).1 = .error e := by
  refine create_fails ?_ elapsed scene
  intro faultless
  obtain ⟨settled⟩ := setup.resolved_of_faultless faultless
  obtain ⟨found, resolved⟩ := settled.setting?_ok named
  cases failed.symm.trans resolved

end Setup

end ClientWiring
