import ClientWiring.Formats.Jks
import ClientWiring.Formats.PemStore
import ClientWiring.Formats.Pkcs12
import ClientWiring.Tls.Context
set_option autoImplicit false

/-! A library for stores and for connections that knows two kinds of key. It reads archives with one
kind of protection, and Java stores whose keys are protected by their own stream of digests. -/

namespace ClientWiring.Sample

def orUnreadable {α : Type} (result : Option α) : Decoded α :=
  match result with
  | some a => .ok a
  | none => .error ⟨.value, ⟨"ValueError", "content cannot be read"⟩⟩

scoped instance stores : StoreLibrary where
  certificatesOfPem content := orUnreadable (PemStore.certificates? content)
  keyOfPem block password := orUnreadable (PemStore.key? block password)
  certificateOfDer der := orUnreadable (Certificate.ofDer? der)
  keyOfDer der := orUnreadable (PrivateKey.ofDer? der)
  archive content password :=
    orUnreadable ((Pem.text? password).bind (Pkcs12.archive? content))
  javaStore content password := orUnreadable (Jks.store? content password)

def maxPassword : Nat := 1023

/-- Takes a key that belongs to the first certificate. -/
def present (store : KeyStore) (password : String) : Except Thrown Unit :=
  if maxPassword < password.utf8ByteSize then
    .error ⟨"ValueError", "Passwords longer than 1023 bytes are not supported by this backend"⟩
  else if store.privateKey.publicKey?.map PublicKey.kind !=
      store.certificate.facts?.map (PublicKey.kind ∘ CertificateFacts.publicKey) then
    .error ⟨"SSLError", "NO_CERTIFICATE_ASSIGNED"⟩
  else if store.privateKey.belongsTo store.certificate then .ok ()
  else .error ⟨"SSLError", "KEY_VALUES_MISMATCH"⟩

scoped instance tls : TlsLibrary where
  trust _ := .ok ()
  present := present

def authorities (certificates : List Certificate) : List Certificate :=
  (certificates.filter Certificate.isAuthority).eraseDups

end ClientWiring.Sample
