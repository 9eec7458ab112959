import ClientWiring.Formats.Pem
import ClientWiring.Formats.PrivateKey
set_option autoImplicit false

/-! Stores that are files of labelled blocks. -/

namespace ClientWiring.PemStore

/-- The certificates of a file, of which there must be one at least. Other blocks are passed
over. -/
def certificates? (bytes : List UInt8) : Option (List Certificate) := do
  let blocks ← Pem.readBlocks bytes
  let certificates ← (blocks.filter fun block =>
    block.label == "CERTIFICATE" || block.label == "X509 CERTIFICATE").mapM
      fun block => Certificate.ofDer? block.content
  if certificates = [] then none else pure certificates

/-- The private key in a block. An encrypted one needs a password, any other one must come
without. -/
def key? (bytes : List UInt8) (password : Option (List UInt8)) : Option PrivateKey := do
  let block ← (← (Pem.frames bytes).head?).block?
  match block.label, password with
  | "PRIVATE KEY", none => PrivateKey.ofDer? block.content
  | "ENCRYPTED PRIVATE KEY", some password => PrivateKey.ofEncryptedDer? block.content password
  | _, _ => none

end ClientWiring.PemStore
