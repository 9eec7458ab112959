import ClientWiring.Crypto.Octets
set_option autoImplicit false

/-! The digest SHA-512. Its constants are the first binary places of the square and cube roots of
the first primes, and are computed from that rule. -/

namespace ClientWiring.Crypto.Sha512

structure State where
  a : UInt64
  b : UInt64
  c : UInt64
  d : UInt64
  e : UInt64
  f : UInt64
  g : UInt64
  h : UInt64
  deriving DecidableEq, Repr, Inhabited

def rotate (x n : UInt64) : UInt64 :=
  (x >>> n) ||| (x <<< (64 - n))

def initial : State :=
  let root (p : Nat) : UInt64 := UInt64.ofNat (rootPlaces 2 64 p)
  ⟨root 2, root 3, root 5, root 7, root 11, root 13, root 17, root 19⟩

def constants : List UInt64 :=
  (primesBelow 410).map fun p => UInt64.ofNat (rootPlaces 3 64 p)

def scheduled (words : Array UInt64) : UInt64 :=
  let back (k : Nat) : UInt64 := words.getD (words.size - k) 0
  let near := back 2
  let far := back 15
  (rotate near 19 ^^^ rotate near 61 ^^^ (near >>> 6)) + back 7 +
    (rotate far 1 ^^^ rotate far 8 ^^^ (far >>> 7)) + back 16

def schedule (block : List UInt8) : Array UInt64 :=
  extendWith scheduled 64
    ((blocksOfSucc 7 block).map fun bytes => UInt64.ofNat (natOfBytes bytes)).toArray

def step (s : State) (constant word : UInt64) : State :=
  let choice := (s.e &&& s.f) ^^^ (~~~s.e &&& s.g)
  let majority := (s.a &&& s.b) ^^^ (s.a &&& s.c) ^^^ (s.b &&& s.c)
  let first := s.h + (rotate s.e 14 ^^^ rotate s.e 18 ^^^ rotate s.e 41) + choice + constant + word
  let second := (rotate s.a 28 ^^^ rotate s.a 34 ^^^ rotate s.a 39) + majority
  ⟨first + second, s.a, s.b, s.c, s.d + first, s.e, s.f, s.g⟩

def rounds (s : State) : List UInt64 → List UInt64 → State
  | constant :: moreConstants, word :: moreWords =>
    rounds (step s constant word) moreConstants moreWords
  | _, _ => s

def absorb (s : State) (block : List UInt8) : State :=
  let t := rounds s constants (schedule block).toList
  ⟨s.a + t.a, s.b + t.b, s.c + t.c, s.d + t.d, s.e + t.e, s.f + t.f, s.g + t.g, s.h + t.h⟩

def digest (message : List UInt8) : List UInt8 :=
  let s := (blocksOfSucc 127 (padMessage 128 16 message)).foldl absorb initial
  [s.a, s.b, s.c, s.d, s.e, s.f, s.g, s.h].flatMap fun word => bytesOfNat 8 word.toNat

end ClientWiring.Crypto.Sha512
