import ClientWiring.Crypto.Octets
set_option autoImplicit false

/-! Elements of the distinguished encoding: a tag, a length and a content, in which other elements
may stand. Only one length is accepted for a content, the shortest, so that `Element.encode` undoes
the reading. -/

namespace ClientWiring.Der

open Crypto

structure Element where
  tag : UInt8
  content : List UInt8
  deriving DecidableEq, Repr, Inhabited

def lengthBytes (length : Nat) : List UInt8 :=
  if length < 0x80 then [UInt8.ofNat length]
  else
    let count := (Nat.log2 length) / 8 + 1
    UInt8.ofNat (0x80 + count) :: bytesOfNat count length

def readLength : List UInt8 → Option (Nat × List UInt8)
  | [] => none
  | first :: rest =>
    if first < 0x80 then some (first.toNat, rest)
    else
      let count := first.toNat - 0x80
      let length := natOfBytes (rest.take count)
      if count = 0 ∨ 4 < count ∨ rest.length < count ∨ rest.head? = some 0 ∨ length < 0x80 then none
      else some (length, rest.drop count)

namespace Element

def encode (element : Element) : List UInt8 :=
  element.tag :: lengthBytes element.content.length ++ element.content

def read : List UInt8 → Option (Element × List UInt8)
  | [] => none
  | tag :: rest =>
    if tag &&& 0x1F = 0x1F then none
    else
      match readLength rest with
      | none => none
      | some (length, rest) =>
        if rest.length < length then none else some (⟨tag, rest.take length⟩, rest.drop length)

def readAll (bytes : List UInt8) : Option (List Element) :=
  match bytes with
  | [] => some []
  | first :: more =>
    match read (first :: more) with
    | none => none
    | some (element, rest) =>
      if rest.length < (first :: more).length then (readAll rest).map (element :: ·)
      else none
termination_by bytes.length
decreasing_by assumption

def ofBytes? (bytes : List UInt8) : Option Element :=
  match read bytes with
  | some (element, []) => some element
  | _ => none

def contentOf? (tag : UInt8) (element : Element) : Option (List UInt8) :=
  if element.tag = tag then some element.content else none

def inside? (tag : UInt8) (element : Element) : Option (List Element) :=
  (element.contentOf? tag).bind readAll

def only? (tag : UInt8) (element : Element) : Option Element :=
  (element.contentOf? tag).bind ofBytes?

def sequence? : Element → Option (List Element) :=
  inside? 0x30

def set? : Element → Option (List Element) :=
  inside? 0x31

/-- The bytes of a whole number, in the fewest bytes that two's complement needs. -/
def integerBytes? (element : Element) : Option (List UInt8) :=
  match element.contentOf? 0x02 with
  | some (0x00 :: next :: rest) => if next < 0x80 then none else some (0x00 :: next :: rest)
  | some (0xFF :: next :: rest) => if next < 0x80 then some (0xFF :: next :: rest) else none
  | some (first :: rest) => some (first :: rest)
  | _ => none

def natural? (element : Element) : Option Nat :=
  match element.integerBytes? with
  | some (first :: rest) => if first < 0x80 then some (natOfBytes (first :: rest)) else none
  | _ => none

def boolean? (element : Element) : Option Bool :=
  match element.contentOf? 0x01 with
  | some [0x00] => some false
  | some [0xFF] => some true
  | _ => none

def octets? : Element → Option (List UInt8) :=
  contentOf? 0x04

/-- The bytes of a string of bits under a tag, of which the last `unused` bits are zero. -/
def bitsUnder? (tag : UInt8) (element : Element) : Option (Nat × List UInt8) :=
  match element.contentOf? tag with
  | some (unused :: bytes) =>
    let last := bytes.getLast?.getD 0
    if 7 < unused ∨ (bytes = [] ∧ unused ≠ 0) ∨ last.toNat % Nat.pow 2 unused.toNat ≠ 0 then none
    else some (unused.toNat, bytes)
  | _ => none

def wholeBits? (element : Element) : Option (List UInt8) :=
  match element.bitsUnder? 0x03 with
  | some (0, bytes) => some bytes
  | _ => none

/-- The numbers that bytes write in groups of seven bits; `started` says that a number is being
read, whose value so far is `value`. -/
def readArcs (started : Bool) (value : Nat) : List UInt8 → Option (List Nat)
  | [] => if started then none else some []
  | b :: rest =>
    if !started && b = 0x80 then none
    else
      let value := value * 128 + b.toNat % 128
      if b < 0x80 then (readArcs false 0 rest).map (value :: ·) else readArcs true value rest

def identifier? (element : Element) : Option (List Nat) :=
  match (element.contentOf? 0x06).bind (readArcs false 0) with
  | some (first :: rest) =>
    let top := min (first / 40) 2
    some (top :: (first - top * 40) :: rest)
  | _ => none

end Element

structure Algorithm where
  identifier : List Nat
  parameters : Option Element
  deriving DecidableEq, Repr, Inhabited

def Algorithm.ofElement? (element : Element) : Option Algorithm := do
  match ← element.sequence? with
  | [identifier] => pure ⟨← identifier.identifier?, none⟩
  | [identifier, parameters] => pure ⟨← identifier.identifier?, some parameters⟩
  | _ => none

end ClientWiring.Der
