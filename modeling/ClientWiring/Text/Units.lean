import ClientWiring.Crypto.Octets
set_option autoImplicit false

/-! Text in units of two bytes, most significant byte first. -/

namespace ClientWiring.Text

def units (c : Char) : List Nat :=
  if c.toNat < 0x10000 then [c.toNat]
  else [0xD800 + (c.toNat - 0x10000) / 0x400, 0xDC00 + (c.toNat - 0x10000) % 0x400]

def unitBytes (text : String) : List UInt8 :=
  (text.toList.flatMap units).flatMap (Crypto.bytesOfNat 2)

end ClientWiring.Text
