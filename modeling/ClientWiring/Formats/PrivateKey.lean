import ClientWiring.Crypto.Aes
import ClientWiring.Crypto.Ed25519
import ClientWiring.Crypto.PasswordKey
import ClientWiring.Formats.Certificate
set_option autoImplicit false

/-! Private keys, plain or encrypted under a password. -/

namespace ClientWiring

open Der

namespace PublicKey

def ofSeed? (content : List UInt8) : Option PublicKey := do
  let seed ← (← Element.ofBytes? content).octets?
  if seed.length = 32 then pure ⟨.ed25519, Crypto.Ed25519.publicKey seed⟩ else none

def ofCurveKey? (content : List UInt8) : Option PublicKey := do
  match ← (← Element.ofBytes? content).sequence? with
  | version :: secret :: rest =>
    let number ← version.natural?
    let secret ← secret.octets?
    let point ← (← rest.findSome? fun element => element.only? 0xA1).wholeBits?
    if number = 1 ∧ secret.length = 32 ∧ point.length = 65 ∧ point.head? = some 4 then
      pure ⟨.p256, point⟩
    else none
  | _ => none

def ofPrivateDer? (der : List UInt8) : Option PublicKey := do
  match ← (← Element.ofBytes? der).sequence? with
  | version :: algorithm :: content :: _ =>
    let number ← version.natural?
    let algorithm ← Algorithm.ofElement? algorithm
    let content ← content.octets?
    if number ≠ 0 then none
    else
      match KeyKind.ofAlgorithm algorithm with
      | .ed25519 => if algorithm.parameters.isNone then ofSeed? content else none
      | .p256 => ofCurveKey? content
      | .other => none
  | _ => none

end PublicKey

structure PasswordEncryption where
  salt : List UInt8
  rounds : Nat
  start : List UInt8
  deriving DecidableEq, Repr, Inhabited

namespace PasswordEncryption

def derivation? (element : Element) : Option (List UInt8 × Nat) := do
  let algorithm ← Algorithm.ofElement? element
  let parameters ← (← algorithm.parameters).sequence?
  match parameters with
  | salt :: rounds :: rest =>
    let digest ← rest.getLast?
    let digest ← Algorithm.ofElement? digest
    let sized : Bool :=
      match rest with
      | [_] => true
      | [length, _] => decide (length.natural? = some 32)
      | _ => false
    if algorithm.identifier = [1, 2, 840, 113549, 1, 5, 12] ∧
        digest.identifier = [1, 2, 840, 113549, 2, 9] ∧ sized then
      pure (← salt.octets?, ← rounds.natural?)
    else none
  | _ => none

def ofElement? (element : Element) : Option PasswordEncryption := do
  let scheme ← Algorithm.ofElement? element
  match ← (← scheme.parameters).sequence? with
  | [derivation, cipher] =>
    let (salt, rounds) ← derivation? derivation
    let cipher ← Algorithm.ofElement? cipher
    let start ← (← cipher.parameters).octets?
    if scheme.identifier = [1, 2, 840, 113549, 1, 5, 13] ∧
        cipher.identifier = [2, 16, 840, 1, 101, 3, 4, 1, 42] then
      pure ⟨salt, rounds, start⟩
    else none
  | _ => none

def decrypt? (encryption : PasswordEncryption) (password text : List UInt8) : Option (List UInt8) :=
  Crypto.Aes.decrypt? (Crypto.passwordKey password encryption.salt encryption.rounds 32)
    encryption.start text

end PasswordEncryption

namespace PrivateKey

def ofDer? (der : List UInt8) : Option PrivateKey :=
  (PublicKey.ofPrivateDer? der).map fun _ => ⟨der⟩

def publicKey? (key : PrivateKey) : Option PublicKey :=
  PublicKey.ofPrivateDer? key.der

def ofEncryptedDer? (der password : List UInt8) : Option PrivateKey := do
  match ← (← Element.ofBytes? der).sequence? with
  | [encryption, text] =>
    let encryption ← PasswordEncryption.ofElement? encryption
    ofDer? (← encryption.decrypt? password (← text.octets?))
  | _ => none

def belongsTo (key : PrivateKey) (certificate : Certificate) : Bool :=
  key.publicKey? == certificate.facts?.map CertificateFacts.publicKey

end PrivateKey

end ClientWiring
