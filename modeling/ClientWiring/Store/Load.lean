import ClientWiring.Files.Location
import ClientWiring.Store.Content
set_option autoImplicit false

/-! Loading a store. The stages come in a fixed order: the kind of the store, its password, its
location, its content, and for a key store the presence of a key and a certificate. The first stage
that fails decides. -/

namespace ClientWiring

structure StoreSettings where
  location : String
  password : Option String
  type : Option String
  deriving DecidableEq, Repr

namespace ErrorKind

def refusesTrustStore : ErrorKind → Bool
  | value | keystore => true
  | type | other => false

def refusesKeyStore : ErrorKind → Bool
  | value | type | keystore => true
  | other => false

end ErrorKind

/-- What is read of a store. An error that means a refusal becomes one of the configuration, any
other one passes. -/
def Decoded.orRefused {α : Type} (refuses : ErrorKind → Bool) (refusal : ConfigError)
    (decoded : Decoded α) : Except StoreError α :=
  match decoded with
  | .ok a => .ok a
  | .error e => .error (if refuses e.kind then .config refusal else .thrown e.thrown)

namespace Surroundings

def configFault {α : Type} (error : ConfigError) : Except StoreError α :=
  .error (.config error)

/-- The kind, the password and the content of a store. -/
def openStore (around : Surroundings) (settings : StoreSettings) (anchor : Option String)
    (noPassword : ConfigError) : Except StoreError (StoreType × String × List UInt8) :=
  match StoreType.ofSetting settings.type with
  | .error e => configFault e
  | .ok type =>
    match settings.password with
    | none => configFault noPassword
    | some password =>
      match around.locate settings.location anchor with
      | .error e => .error e
      | .ok content => .ok (type, password, content)

variable [StoreLibrary]

def loadTrustStore (around : Surroundings) (settings : StoreSettings)
    (anchor : Option String) : Except StoreError TrustStore := do
  let (type, password, content) ← around.openStore settings anchor .noTrustStorePassword
  let certificates ← (type.certificates content password).orRefused ErrorKind.refusesTrustStore
    (.trustStoreUnreadable settings.location)
  pure ⟨certificates⟩

def loadKeyStore (around : Surroundings) (settings : StoreSettings)
    (anchor : Option String) : Except StoreError KeyStore := do
  let (type, password, content) ← around.openStore settings anchor .noKeyStorePassword
  let material ← (type.keys content password).orRefused ErrorKind.refusesKeyStore
    (.keyStoreUnreadable settings.location)
  match material with
  | ⟨some key, certificate :: chain⟩ => pure ⟨key, certificate, chain⟩
  | _ => configFault (.noPrivateKey settings.location)

end Surroundings

end ClientWiring
