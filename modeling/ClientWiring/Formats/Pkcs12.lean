import ClientWiring.Formats.PrivateKey
import ClientWiring.Store.Library
import ClientWiring.Text.Units
set_option autoImplicit false

/-! Stores in the archive format PKCS#12: contents in bags, some of them encrypted under the
password, and an authentication code over all of them. -/

namespace ClientWiring.Pkcs12

open Der

/-- A part of an archive that is an algorithm or kind with content under the tag of an explicit
field. -/
structure Tagged where
  identifier : List Nat
  content : Element
  deriving DecidableEq, Repr, Inhabited

namespace Tagged

def ofElement? (element : Element) : Option Tagged := do
  match ← element.sequence? with
  | identifier :: content :: _ => pure ⟨← identifier.identifier?, ← content.only? 0xA0⟩
  | _ => none

end Tagged

/-- The bytes of a password in units of two, closed by a zero unit. -/
def closedUnits (password : String) : List UInt8 :=
  Text.unitBytes password ++ [0, 0]

/-- The passwords that are tried for the code: an empty one may also mean no unit at all. -/
def codePasswords (password : String) : List (List UInt8) :=
  if password.isEmpty then [[], closedUnits password] else [closedUnits password]

def codeMatches? (element : Element) (text : List UInt8) (password : String) : Option Bool := do
  let parts ← element.sequence?
  let (digest, salt, rounds) ← match parts with
    | [digest, salt] => pure (digest, salt, 1)
    | [digest, salt, rounds] => pure (digest, salt, ← rounds.natural?)
    | _ => none
  let salt ← salt.octets?
  match ← digest.sequence? with
  | [algorithm, code] =>
    let algorithm ← Algorithm.ofElement? algorithm
    let code ← code.octets?
    if algorithm.identifier = [2, 16, 840, 1, 101, 3, 4, 2, 1] then
      pure <| (codePasswords password).any fun units =>
        Crypto.hmac (Crypto.archiveKey 3 units salt rounds 32) text = code
    else none
  | _ => none

def decryptPart? (content : Element) (password : String) : Option (List UInt8) := do
  match ← content.sequence? with
  | [version, part] =>
    let _ ← version.natural?
    match ← part.sequence? with
    | [kind, encryption, text] =>
      let kind ← kind.identifier?
      let encryption ← PasswordEncryption.ofElement? encryption
      if kind = [1, 2, 840, 113549, 1, 7, 1] then
        encryption.decrypt? (Pem.octets password) (← text.contentOf? 0x80)
      else none
    | _ => none
  | _ => none

def bags? (password : String) (part : Element) : Option (List Tagged) := do
  let part ← Tagged.ofElement? part
  let text ←
    if part.identifier = [1, 2, 840, 113549, 1, 7, 1] then part.content.octets?
    else if part.identifier = [1, 2, 840, 113549, 1, 7, 6] then decryptPart? part.content password
    else none
  (← (← Element.ofBytes? text).sequence?).mapM Tagged.ofElement?

def bagKey? (password : String) (bag : Tagged) : Option (Option PrivateKey) :=
  if bag.identifier = [1, 2, 840, 113549, 1, 12, 10, 1, 1] then
    (PrivateKey.ofDer? bag.content.encode).map some
  else if bag.identifier = [1, 2, 840, 113549, 1, 12, 10, 1, 2] then
    (PrivateKey.ofEncryptedDer? bag.content.encode (Pem.octets password)).map some
  else some none

def bagCertificate? (bag : Tagged) : Option (Option Certificate) := do
  if bag.identifier = [1, 2, 840, 113549, 1, 12, 10, 1, 3] then
    let certificate ← Tagged.ofElement? bag.content
    if certificate.identifier = [1, 2, 840, 113549, 1, 9, 22, 1] then
      pure (some (← Certificate.ofDer? (← certificate.content.octets?)))
    else none
  else pure none

def parts? (bytes : List UInt8) (password : String) : Option (List Element) := do
  match ← (← Element.ofBytes? bytes).sequence? with
  | [version, content, code] =>
    let number ← version.natural?
    let content ← Tagged.ofElement? content
    let text ← content.content.octets?
    let authentic ← codeMatches? code text password
    if number = 3 ∧ content.identifier = [1, 2, 840, 113549, 1, 7, 1] ∧ authentic then
      (← Element.ofBytes? text).sequence?
    else none
  | _ => none

/-- The first private key of an archive, the certificate that belongs to it, and the others in their
order. -/
def archive? (bytes : List UInt8) (password : String) : Option Archive := do
  let bags := (← (← parts? bytes password).mapM (bags? password)).flatten
  let key := (← bags.mapM (bagKey? password)).filterMap id |>.head?
  let certificates := (← bags.mapM bagCertificate?).filterMap id
  match key with
  | some key =>
    pure ⟨some key, certificates.find? key.belongsTo, certificates.eraseP key.belongsTo⟩
  | none => pure ⟨none, none, certificates⟩

end ClientWiring.Pkcs12
