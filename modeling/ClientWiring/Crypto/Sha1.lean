import ClientWiring.Crypto.Octets
set_option autoImplicit false

/-! The digest SHA-1. -/

namespace ClientWiring.Crypto.Sha1

structure State where
  a : UInt32
  b : UInt32
  c : UInt32
  d : UInt32
  e : UInt32
  deriving DecidableEq, Repr, Inhabited

def rotate (x n : UInt32) : UInt32 :=
  (x <<< n) ||| (x >>> (32 - n))

def initial : State :=
  ⟨0x67452301, 0xEFCDAB89, 0x98BADCFE, 0x10325476, 0xC3D2E1F0⟩

def scheduled (words : Array UInt32) : UInt32 :=
  let back (k : Nat) : UInt32 := words.getD (words.size - k) 0
  rotate (back 3 ^^^ back 8 ^^^ back 14 ^^^ back 16) 1

def schedule (block : List UInt8) : Array UInt32 :=
  extendWith scheduled 64
    ((blocksOfSucc 3 block).map fun bytes => UInt32.ofNat (natOfBytes bytes)).toArray

def mix (round : Nat) (b c d : UInt32) : UInt32 :=
  if round < 20 then ((b &&& c) ||| (~~~b &&& d)) + 0x5A827999
  else if round < 40 then (b ^^^ c ^^^ d) + 0x6ED9EBA1
  else if round < 60 then ((b &&& c) ||| (b &&& d) ||| (c &&& d)) + 0x8F1BBCDC
  else (b ^^^ c ^^^ d) + 0xCA62C1D6

def step (s : State) (word : UInt32 × Nat) : State :=
  ⟨rotate s.a 5 + mix word.2 s.b s.c s.d + s.e + word.1, s.a, rotate s.b 30, s.c, s.d⟩

def absorb (s : State) (block : List UInt8) : State :=
  let t := (schedule block).toList.zipIdx.foldl step s
  ⟨s.a + t.a, s.b + t.b, s.c + t.c, s.d + t.d, s.e + t.e⟩

def digest (message : List UInt8) : List UInt8 :=
  let s := (blocksOfSucc 63 (padMessage 64 8 message)).foldl absorb initial
  [s.a, s.b, s.c, s.d, s.e].flatMap fun word => bytesOfNat 4 word.toNat

end ClientWiring.Crypto.Sha1
