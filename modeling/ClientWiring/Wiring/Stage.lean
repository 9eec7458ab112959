import ClientWiring.Class.Verifier
import ClientWiring.Wiring.Choice
set_option autoImplicit false

/-! The stages of a construction. Each stage resolves its settings and tells the builder about those
that have a value; the two kinds of client go through the same stages in different orders. -/

namespace ClientWiring

inductive Stage where
  | baseUrl
  | timeouts
  | providers
  | tls
  | proxy
  | redirects
  | followRedirects
  | queryStyle
  | customProperties
  deriving DecidableEq, Repr

namespace Setup

variable {β ρ : Type} [ClientBuilder β ρ] [UrlReader] [StoreLibrary]

def tellSetting (setup : Setup) (setting : Setting) (call : setting.Carrier → BuilderCall) :
    Step β Unit := do
  match ← Step.ofExcept id (setup.setting? setting) with
  | some value => Step.tell (call value)
  | none => pure ()

def configureBaseUrl (setup : Setup) : Step β Unit := do
  let url ← Step.ofExcept id setup.chosenBaseUrl
  Step.ofExcept id (checkBaseUrl url)
  Step.tell (.baseUrl url)

def configureTimeouts (setup : Setup) : Step β Unit := do
  setup.tellSetting .connectTimeout fun millis => .connectTimeout (.int millis)
  setup.tellSetting .readTimeout fun millis => .readTimeout (.int millis)

def registerProvider (setup : Setup) (name : String) : Step β Unit := do
  let info ← Step.ofExcept id (providerClass setup.registry setup.around.library name)
  Step.tell (.register info)

/-- Registers the configured providers and then, in a classic client, those of the annotation. -/
def configureProviders (setup : Setup) : Step β Unit := do
  match ← Step.ofExcept id (setup.setting? .providers) with
  | some names => (providerNames names).forM setup.registerProvider
  | none => pure ()
  match setup.variant with
  | .classic => setup.annotationProviders.forM fun info => Step.tell (.register info)
  | .reactive => pure ()

def installVerifier (setup : Setup) (name : String) : Step β Unit := do
  let verifier ← Step.ofExcept id (verifierInstance setup.registry setup.around.library name)
  Step.tell (.hostnameVerifier verifier)

/-- Switches the checks of peers off, where a classic client is told to. -/
def configureTrustAll (setup : Setup) : Step β Unit := do
  match ← Step.ofExcept id (setup.global? trustAllKey .flag) with
  | some true =>
    setup.installVerifier Verifier.noopRegisteredName
    Step.tell (.tlsContext .trustAll)
  | _ => pure ()

def configureTrustStore (setup : Setup) : Step β Unit := do
  match ← Step.ofExcept id (setup.setting? .trustStore) with
  | some location =>
    let settings ← Step.ofExcept id (setup.trustStoreSettings location)
    let store ← Step.ofExcept WiringError.ofStoreError
      (setup.around.loadTrustStore settings (some setup.interface.module))
    Step.tell (.trustStore store)
  | none => pure ()

def configureKeyStore (setup : Setup) : Step β Unit := do
  match ← Step.ofExcept id (setup.setting? .keyStore) with
  | some location =>
    let settings ← Step.ofExcept id (setup.keyStoreSettings location)
    let store ← Step.ofExcept WiringError.ofStoreError
      (setup.around.loadKeyStore settings (some setup.interface.module))
    Step.tell (.keyStore store settings.password)
  | none => pure ()

def configureVerifier (setup : Setup) : Step β Unit := do
  match ← Step.ofExcept id (setup.setting? .hostnameVerifier) with
  | some name => setup.installVerifier name
  | none => pure ()

/-- Everything about TLS: the switch for all checks in classic clients, then the stores, then the
verifier, which replaces the one that the switch installs. -/
def configureTls (setup : Setup) : Step β Unit := do
  match setup.variant with
  | .classic => setup.configureTrustAll
  | .reactive => pure ()
  setup.configureTrustStore
  setup.configureKeyStore
  setup.configureVerifier

def configureProxy (setup : Setup) : Step β Unit := do
  match ← Step.ofExcept id (setup.setting? .proxyAddress) with
  | some text =>
    let address ← Step.ofExcept WiringError.config (ProxyAddress.parse text)
    Step.tell (.proxyAddress address)
  | none => pure ()

def configureFollowRedirects (setup : Setup) : Step β Unit :=
  setup.tellSetting .followRedirects .followRedirects

/-- Everything about redirects; only reactive clients take a limit. -/
def configureRedirects (setup : Setup) : Step β Unit := do
  match setup.variant with
  | .classic => pure ()
  | .reactive =>
    match ← Step.ofExcept id setup.maxRedirects? with
    | some limit => Step.tell (.property maxRedirectsProperty (.int limit))
    | none => pure ()
  setup.configureFollowRedirects

def configureQueryStyle (setup : Setup) : Step β Unit :=
  setup.tellSetting .queryParamStyle .queryStyle

def tellProperty (name : String) (value : Option Int) : Step β Unit :=
  match value with
  | some n => Step.tell (.property name (.int n))
  | none => pure ()

/-- Tells the builder the properties of the transport: in reactive clients the encoder mode, then
the size of the pool and the time that idle connections are kept, which only typed settings give. -/
def configureCustomProperties (setup : Setup) : Step β Unit := do
  match setup.variant with
  | .classic => pure ()
  | .reactive =>
    match ← Step.ofExcept id setup.encoderMode? with
    | some mode => Step.tell (.property encoderModeProperty (.encoder mode))
    | none => pure ()
  tellProperty connectionPoolSizeProperty (setup.layers.typed? .connectionPoolSize)
  tellProperty connectionTtlProperty (setup.layers.typed? .connectionTtl)

def step (setup : Setup) : Stage → Step β Unit
  | .baseUrl => setup.configureBaseUrl
  | .timeouts => setup.configureTimeouts
  | .providers => setup.configureProviders
  | .tls => setup.configureTls
  | .proxy => setup.configureProxy
  | .redirects => setup.configureRedirects
  | .followRedirects => setup.configureFollowRedirects
  | .queryStyle => setup.configureQueryStyle
  | .customProperties => setup.configureCustomProperties

end Setup

def Variant.stages : Variant → List Stage
  | .classic => [.baseUrl, .timeouts, .providers, .tls, .proxy, .redirects, .queryStyle,
      .customProperties]
  | .reactive => [.baseUrl, .timeouts, .providers, .tls, .redirects, .queryStyle, .proxy,
      .customProperties]

def Setup.create {β ρ : Type} [ClientBuilder β ρ] [UrlReader] [StoreLibrary] (setup : Setup)
    (elapsed : Double) : Step β ρ :=
  construct setup.audit elapsed (setup.variant.stages.map setup.step)
    (Step.build setup.interface)

end ClientWiring
