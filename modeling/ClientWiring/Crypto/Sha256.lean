import ClientWiring.Crypto.Octets
set_option autoImplicit false

/-! The digest SHA-256. Its constants are the first binary places of the square and cube roots of
the first primes, and are computed from that rule. -/

namespace ClientWiring.Crypto.Sha256

structure State where
  a : UInt32
  b : UInt32
  c : UInt32
  d : UInt32
  e : UInt32
  f : UInt32
  g : UInt32
  h : UInt32
  deriving DecidableEq, Repr, Inhabited

def rotate (x n : UInt32) : UInt32 :=
  (x >>> n) ||| (x <<< (32 - n))

/-- The state before the first block: places of the square roots of the first eight primes. -/
def initial : State :=
  let root (p : Nat) : UInt32 := UInt32.ofNat (rootPlaces 2 32 p)
  ⟨root 2, root 3, root 5, root 7, root 11, root 13, root 17, root 19⟩

/-- The constants of the rounds: places of the cube roots of the first sixty-four primes. -/
def constants : List UInt32 :=
  (primesBelow 312).map fun p => UInt32.ofNat (rootPlaces 3 32 p)

def scheduled (words : Array UInt32) : UInt32 :=
  let back (k : Nat) : UInt32 := words.getD (words.size - k) 0
  let near := back 2
  let far := back 15
  (rotate near 17 ^^^ rotate near 19 ^^^ (near >>> 10)) + back 7 +
    (rotate far 7 ^^^ rotate far 18 ^^^ (far >>> 3)) + back 16

def schedule (block : List UInt8) : Array UInt32 :=
  extendWith scheduled 48
    ((blocksOfSucc 3 block).map fun bytes => UInt32.ofNat (natOfBytes bytes)).toArray

def step (s : State) (constant word : UInt32) : State :=
  let choice := (s.e &&& s.f) ^^^ (~~~s.e &&& s.g)
  let majority := (s.a &&& s.b) ^^^ (s.a &&& s.c) ^^^ (s.b &&& s.c)
  let first := s.h + (rotate s.e 6 ^^^ rotate s.e 11 ^^^ rotate s.e 25) + choice + constant + word
  let second := (rotate s.a 2 ^^^ rotate s.a 13 ^^^ rotate s.a 22) + majority
  ⟨first + second, s.a, s.b, s.c, s.d + first, s.e, s.f, s.g⟩

def rounds (s : State) : List UInt32 → List UInt32 → State
  | constant :: moreConstants, word :: moreWords =>
    rounds (step s constant word) moreConstants moreWords
  | _, _ => s

def absorb (s : State) (block : List UInt8) : State :=
  let t := rounds s constants (schedule block).toList
  ⟨s.a + t.a, s.b + t.b, s.c + t.c, s.d + t.d, s.e + t.e, s.f + t.f, s.g + t.g, s.h + t.h⟩

def digest (message : List UInt8) : List UInt8 :=
  let s := (blocksOfSucc 63 (padMessage 64 8 message)).foldl absorb initial
  [s.a, s.b, s.c, s.d, s.e, s.f, s.g, s.h].flatMap fun word => bytesOfNat 4 word.toNat

end ClientWiring.Crypto.Sha256
