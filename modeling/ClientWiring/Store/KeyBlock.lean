import ClientWiring.Store.Pem
set_option autoImplicit false

/-! Where the private key stands among the blocks of a file. -/

namespace ClientWiring.PemStore

open Pem (octets)

def through? (marker : List UInt8) : List UInt8 → Option (List UInt8)
  | [] => if marker.isEmpty then some [] else none
  | b :: rest =>
    if marker.isPrefixOf (b :: rest) then some marker else (through? marker rest).map (b :: ·)

/-- The bytes after a beginning, if they start with it. -/
def after? (start bytes : List UInt8) : Option (List UInt8) :=
  if start.isPrefixOf bytes then some (bytes.drop start.length) else none

def isLabelByte (b : UInt8) : Bool :=
  b == 0x20 || (decide (0x41 ≤ b) && decide (b ≤ 0x5A))

/-- The block of a private key at the beginning of bytes. There is a byte at least between its two
lines. -/
def keyBlockHere? (bytes : List UInt8) : Option (List UInt8) := do
  let opening := octets "-----BEGIN "
  let rest ← after? opening bytes
  let label := rest.takeWhile isLabelByte
  let line := opening ++ label ++ octets "-----"
  let body ← after? (octets "-----") (rest.drop label.length)
  if (octets "PRIVATE KEY").isSuffixOf label then
    match body with
    | [] => none
    | first :: rest =>
      let remainder ← through? (octets "-----END " ++ label ++ octets "-----") rest
      pure (line ++ first :: remainder)
  else none

def keyBlock? : List UInt8 → Option (List UInt8)
  | [] => none
  | b :: rest =>
    match keyBlockHere? (b :: rest) with
    | some block => some block
    | none => keyBlock? rest

end ClientWiring.PemStore
