import ClientWiring.Text.UpperCase
import ClientWiring.Url.Reader
import ClientWiring.Wiring.Setup
set_option autoImplicit false

/-! The choices of a construction that need more than one setting, or a look at what a setting
names: the base URL, provider classes, the verifier of host names, and the encoder mode. -/

namespace ClientWiring

def providerClass (registry : Registry) (library : Library) (name : String) :
    Except WiringError ClassInfo :=
  match registry.resolve library name with
  | .ok info => .ok info
  | .error (.unresolved _) => .error (.config (.providerNotFound name))
  | .error (.failed cause) => .error (.load cause)

/-- The names in a text of names with commas between them; blank ones are left out. -/
def providerNames (text : String) : List String :=
  ((text.splitOn ",").map Text.trim).filter fun name => !name.isEmpty

/-- A made instance, if it is one of a verifier: it has a verifying function. -/
def madeVerifier (name : String) (made : Except Thrown Instance) : Except WiringError Instance :=
  match made with
  | .error _ => .error (.config (.verifierNotInstantiable name))
  | .ok object =>
    match object.verifying with
    | .function _ => .ok object
    | .absent | .notCallable _ => .error (.config (.notAVerifier name))

/-- A fresh instance of a configured verifier, by a way of making instances. The first fault decides:
the class cannot be found, it needs arguments, it cannot be instantiated, its instance has no
verifying function. -/
def freshVerifier {m : Type → Type} [Monad m] (make : ClassInfo → m (Except Thrown Instance))
    (registry : Registry) (library : Library) (name : String) : m (Except WiringError Instance) :=
  match registry.resolve library name with
  | .error (.unresolved _) => pure (.error (.config (.verifierNotFound name)))
  | .error (.failed cause) => pure (.error (.load cause))
  | .ok info =>
    if info.takesNoArguments then do
      let made ← make info
      pure (madeVerifier name made)
    else pure (.error (.config (.verifierNeedsArguments name)))

def verifierInstance (registry : Registry) (library : Library) (name : String) :
    Except WiringError Instance :=
  Id.run (freshVerifier (fun info => pure info.construct) registry library name)

namespace Setup

def missingBaseUrlKeys (setup : Setup) : String × String :=
  match setup.variant with
  | .classic => (typedKey setup.owner "url", typedKey setup.owner "uri")
  | .reactive => (legacyKey setup.owner "url", legacyKey setup.owner "uri")

def missingBaseUrl (setup : Setup) : WiringError :=
  .config (.missingBaseUrl setup.missingBaseUrlKeys.1 setup.missingBaseUrlKeys.2)

/-- The first of: the configured URI, the configured URL, the annotation unless it is empty. -/
def chosenBaseUrl (setup : Setup) : Except WiringError String := do
  match ← setup.setting? .uri with
  | some uri => pure uri
  | none =>
    match ← setup.setting? .url with
    | some url => pure url
    | none =>
      match setup.annotationUri with
      | some annotation =>
        if annotation.isEmpty then throw setup.missingBaseUrl else pure annotation
      | none => throw setup.missingBaseUrl

def checkBaseUrl [UrlReader] (text : String) : Except WiringError Unit :=
  let invalid : WiringError := .config (.invalidBaseUrl text)
  match UrlReader.parse text with
  | .error _ => .error invalid
  | .ok url =>
    if url.scheme.isEmpty then .error invalid
    else
      match UrlReader.host url with
      | .error e => .error (.label e)
      | .ok host => if host.isEmpty then .error invalid else .ok ()

def encoderModeKey : String := "rest-client.multipart-post-encoder-mode"

def encoderMode? (setup : Setup) : Except WiringError (Option EncoderMode) := do
  match ← (setup.layers.encoderMode? encoderModeKey).mapError WiringError.config with
  | none => pure none
  | some text =>
    match EncoderMode.ofName? (Text.upperKeyword text) with
    | some mode => pure (some mode)
    | none => throw (.config (.invalidEncoderMode text (EncoderMode.all.map EncoderMode.name)))

def maxRedirectsKey : String := "rest-client.max-redirects"

/-- The configured limit on redirects: the client's own, else the global one. -/
def maxRedirects? (setup : Setup) : Except WiringError (Option Int) :=
  match setup.layers.typed? .maxRedirects with
  | some limit => .ok (some limit)
  | none => setup.global? maxRedirectsKey .whole

def trustAllKey : String := "tls.trust-all"

def trustStoreSettings (setup : Setup) (location : String) : Except WiringError StoreSettings := do
  let password ← setup.setting? .trustStorePassword
  let type ← setup.setting? .trustStoreType
  pure ⟨location, password, type⟩

def keyStoreSettings (setup : Setup) (location : String) : Except WiringError StoreSettings := do
  let password ← setup.setting? .keyStorePassword
  let type ← setup.setting? .keyStoreType
  pure ⟨location, password, type⟩

end Setup

end ClientWiring
