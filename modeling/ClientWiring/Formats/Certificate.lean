import ClientWiring.Formats.Der
import ClientWiring.Store.Basic
set_option autoImplicit false

/-! Certificates: bytes of a fixed structure, with what is read from them. -/

namespace ClientWiring

open Der

inductive KeyKind where
  | ed25519
  | p256
  | other
  deriving DecidableEq, Repr, Inhabited

structure PublicKey where
  kind : KeyKind
  bytes : List UInt8
  deriving DecidableEq, Repr, Inhabited

namespace KeyKind

def ofAlgorithm (algorithm : Algorithm) : KeyKind :=
  if algorithm.identifier = [1, 3, 101, 112] then .ed25519
  else if algorithm.identifier = [1, 2, 840, 10045, 2, 1] ∧
      algorithm.parameters.bind Element.identifier? = some [1, 2, 840, 10045, 3, 1, 7] then .p256
  else .other

end KeyKind

/-- What a certificate says of its key. -/
structure CertificateFacts where
  isAuthority : Bool
  publicKey : PublicKey
  deriving DecidableEq, Repr, Inhabited

namespace CertificateFacts

/-- Whether an element is a name: sets of pairs of an identifier and a value. -/
def isName (element : Element) : Bool :=
  let isPair (pair : Element) : Bool :=
    match pair.sequence? with
    | some [identifier, _] => identifier.identifier?.isSome
    | _ => false
  let isPart (part : Element) : Bool :=
    match part.set? with
    | some (pair :: pairs) => (pair :: pairs).all isPair
    | _ => false
  match element.sequence? with
  | some parts => parts.all isPart
  | none => false

def digitsValue (digits : List UInt8) : Nat :=
  digits.foldl (fun n b => n * 10 + (b.toNat - 0x30)) 0

def daysIn (year month : Nat) : Nat :=
  if month = 2 then
    if year % 4 = 0 ∧ (year % 100 ≠ 0 ∨ year % 400 = 0) then 29 else 28
  else if [4, 6, 9, 11].contains month then 30
  else 31

/-- Whether digits make a time: a year, and two digits each for the month, the day, the hour, the
minute and the second. A year of two digits is one of the years from 1950 on. -/
def isTimeText (yearLength : Nat) (digits : List UInt8) : Bool :=
  let part (index : Nat) : Nat := digitsValue ((digits.drop (yearLength + 2 * index)).take 2)
  let year := digitsValue (digits.take yearLength)
  let year := if yearLength = 4 then year else if year < 50 then 2000 + year else 1900 + year
  digits.length = yearLength + 10 && digits.all (fun b => decide (0x30 ≤ b) && decide (b ≤ 0x39)) &&
    1 ≤ part 0 && part 0 ≤ 12 && 1 ≤ part 1 && part 1 ≤ daysIn year (part 0) &&
    part 2 < 24 && part 3 < 60 && part 4 < 60

def isTime (element : Element) : Bool :=
  let digits := element.content.dropLast
  element.content.getLast? = some 0x5A &&
    (element.tag = 0x17 && isTimeText 2 digits || element.tag = 0x18 && isTimeText 4 digits)

def isValidity (element : Element) : Bool :=
  match element.sequence? with
  | some [start, finish] => isTime start && isTime finish
  | _ => false

def publicKey? (element : Element) : Option PublicKey := do
  match ← element.sequence? with
  | [algorithm, key] =>
    let algorithm ← Algorithm.ofElement? algorithm
    let bytes ← key.wholeBits?
    if bytes.isEmpty then none else pure ⟨KeyKind.ofAlgorithm algorithm, bytes⟩
  | _ => none

def extension? (element : Element) : Option (List Nat × List UInt8) := do
  match ← element.sequence? with
  | [identifier, value] => pure (← identifier.identifier?, ← value.octets?)
  | [identifier, critical, value] =>
    let _ ← critical.boolean?
    pure (← identifier.identifier?, ← value.octets?)
  | _ => none

/-- Whether the value of the extension of basic constraints says that the key is an authority's. -/
def saysAuthority (value : List UInt8) : Bool :=
  match (Element.ofBytes? value).bind Element.sequence? with
  | some (flag :: _) => flag.boolean? = some true
  | _ => false

def authorityAmong (extensions : List (List Nat × List UInt8)) : Bool :=
  match extensions.lookup [2, 5, 29, 19] with
  | some value => saysAuthority value
  | none => false

def readTail : List Element → Option (List (List Nat × List UInt8))
  | [] => some []
  | element :: rest =>
    if element.tag = 0xA3 then
      match rest, (element.only? 0xA3).bind Element.sequence? with
      | [], some (first :: more) => (first :: more).mapM extension?
      | _, _ => none
    else if element.tag = 0x81 ∨ (element.tag = 0x82 ∧ rest.all fun e => e.tag != 0x81) then
      if (element.bitsUnder? element.tag).isSome then readTail rest else none
    else none

def ofSigned? : List Element → Option CertificateFacts
  | serial :: algorithm :: issuer :: validity :: subject :: key :: tail => do
    let _ ← serial.integerBytes?
    let _ ← Algorithm.ofElement? algorithm
    let publicKey ← publicKey? key
    let extensions ← readTail tail
    if isName issuer && isValidity validity && isName subject then
      pure ⟨authorityAmong extensions, publicKey⟩
    else none
  | _ => none

/-- The elements of a signed part after its version, which is one of three and left out for the
first. -/
def afterVersion? : List Element → Option (List Element)
  | [] => none
  | first :: rest =>
    if first.tag = 0xA0 then
      match (first.only? 0xA0).bind Element.natural? with
      | some version => if version = 1 ∨ version = 2 then some rest else none
      | none => none
    else some (first :: rest)

def ofDer? (der : List UInt8) : Option CertificateFacts := do
  match ← (← Element.ofBytes? der).sequence? with
  | [signed, algorithm, signature] =>
    let _ ← Algorithm.ofElement? algorithm
    let _ ← signature.wholeBits?
    ofSigned? (← afterVersion? (← signed.sequence?))
  | _ => none

end CertificateFacts

namespace Certificate

def ofDer? (der : List UInt8) : Option Certificate :=
  (CertificateFacts.ofDer? der).map fun _ => ⟨der⟩

def facts? (certificate : Certificate) : Option CertificateFacts :=
  CertificateFacts.ofDer? certificate.der

def isAuthority (certificate : Certificate) : Bool :=
  certificate.facts?.any CertificateFacts.isAuthority

end Certificate

end ClientWiring
