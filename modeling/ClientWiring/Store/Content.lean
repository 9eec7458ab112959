import ClientWiring.Store.KeyBlock
import ClientWiring.Store.Library
import ClientWiring.Store.StoreType
set_option autoImplicit false

/-! The content of a store, read by its kind with the libraries for it. -/

namespace ClientWiring

def Archive.certificates (archive : Archive) : List Certificate :=
  archive.certificate.toList ++ archive.additional

namespace JavaKey

/-- The error of a key that the password of its store does not open. -/
def locked (entry : JavaKey) : DecodeError :=
  ⟨.value, ⟨"ValueError", "private key entry '" ++ entry.name ++ "' could not be decrypted"⟩⟩

end JavaKey

namespace PemStore

/-- The password of a block. An empty one is none. -/
def blockPassword? (password : String) : Option (List UInt8) :=
  if password.isEmpty then none else some (Pem.octets password)

end PemStore

namespace StoreType

variable [StoreLibrary]

def pemKeys (content : List UInt8) (password : String) : Decoded KeyMaterial := do
  let key ←
    match PemStore.keyBlock? content with
    | none => pure none
    | some block => do
      let key ← StoreLibrary.keyOfPem block (PemStore.blockPassword? password)
      pure (some key)
  let certificates ← StoreLibrary.certificatesOfPem content
  pure ⟨key, certificates⟩

def firstKey : List JavaKey → Decoded KeyMaterial
  | [] => .ok ⟨none, []⟩
  | entry :: _ =>
    match entry.unlocked with
    | none => .error entry.locked
    | some der => do
      let key ← StoreLibrary.keyOfDer der
      let certificates ← entry.chain.mapM StoreLibrary.certificateOfDer
      pure ⟨some key, certificates⟩

def certificates (type : StoreType) (content : List UInt8) (password : String) :
    Decoded (List Certificate) :=
  match type with
  | .pem => StoreLibrary.certificatesOfPem content
  | .jks | .jceks => do
    let store ← StoreLibrary.javaStore content password
    store.certificates.mapM StoreLibrary.certificateOfDer
  | .pkcs12 => do
    let archive ← StoreLibrary.archive content (Pem.octets password)
    pure archive.certificates

def keys (type : StoreType) (content : List UInt8) (password : String) : Decoded KeyMaterial :=
  match type with
  | .pem => pemKeys content password
  | .jks | .jceks => do
    let store ← StoreLibrary.javaStore content password
    firstKey store.keys
  | .pkcs12 => do
    let archive ← StoreLibrary.archive content (Pem.octets password)
    pure ⟨archive.privateKey, archive.certificates⟩

end StoreType

end ClientWiring
