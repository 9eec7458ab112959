import ClientWiring.Store.Basic
import ClientWiring.Thrown
set_option autoImplicit false

/-! What libraries read from the content of stores. A library gives what it has read or fails; the
errors that it fails with are told apart by their kinds alone. -/

namespace ClientWiring

/-- The kinds of error that are told apart: bad values, arguments of a wrong type, bad stores, and
everything else. -/
inductive ErrorKind where
  | value
  | type
  | keystore
  | other
  deriving DecidableEq, Repr

structure DecodeError where
  kind : ErrorKind
  thrown : Thrown
  deriving DecidableEq, Repr

abbrev Decoded (α : Type) := Except DecodeError α

/-- An archive: a private key, the certificate that belongs to it, and the other certificates. -/
structure Archive where
  privateKey : Option PrivateKey
  certificate : Option Certificate
  additional : List Certificate
  deriving DecidableEq, Repr

/-- An entry of a Java store for a private key, with its name and the bytes of its certificates. The
bytes of the key are known if the password of the store opens it. -/
structure JavaKey where
  name : String
  unlocked : Option (List UInt8)
  chain : List (List UInt8)
  deriving DecidableEq, Repr

/-- A Java store: the entries for private keys and the bytes of the trusted certificates, both in
the order of the store. -/
structure JavaStore where
  keys : List JavaKey
  certificates : List (List UInt8)
  deriving DecidableEq, Repr

class StoreLibrary where
  certificatesOfPem : (content : List UInt8) → Decoded (List Certificate)
  /-- The private key in a block of text, protected by a password or not. -/
  keyOfPem : (block : List UInt8) → (password : Option (List UInt8)) → Decoded PrivateKey
  certificateOfDer : (der : List UInt8) → Decoded Certificate
  keyOfDer : (der : List UInt8) → Decoded PrivateKey
  archive : (content password : List UInt8) → Decoded Archive
  javaStore : (content : List UInt8) → (password : String) → Decoded JavaStore

end ClientWiring
