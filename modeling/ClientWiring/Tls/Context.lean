import ClientWiring.Store.Basic
import ClientWiring.Thrown
set_option autoImplicit false

/-! How the two ends of a TLS connection are checked. -/

namespace ClientWiring

inductive TrustedCertificates where
  | systemDefaults
  | only (certificates : List Certificate)
  deriving DecidableEq, Repr

structure TlsContext where
  checksHost : Bool
  verifiesPeer : Bool
  trusted : TrustedCertificates
  /-- The key and the certificates that the peer may ask for. -/
  identity : Option KeyStore
  deriving DecidableEq, Repr

namespace TlsContext

def standard : TlsContext := ⟨true, true, .systemDefaults, none⟩

def trustAll : TlsContext := ⟨false, false, .systemDefaults, none⟩

def trusting (certificates : List Certificate) : TlsContext :=
  ⟨true, true, .only certificates, none⟩

def verifyMode (context : TlsContext) : String :=
  if context.verifiesPeer then "CERT_REQUIRED" else "CERT_NONE"

end TlsContext

class TlsLibrary where
  /-- Whether certificates can be trusted. -/
  trust : List Certificate → Except Thrown Unit
  /-- Whether a key, written under a password, and its certificates can be shown. -/
  present : KeyStore → (password : String) → Except Thrown Unit

end ClientWiring
