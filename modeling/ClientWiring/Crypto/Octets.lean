set_option autoImplicit false

/-! Numbers written as bytes, most significant first, and lists cut into blocks. Digests and ciphers
work on blocks of fixed size, and the last step of a digest writes a length as bytes. -/

namespace ClientWiring.Crypto

/-- The number that bytes write, most significant first. -/
def natOfBytes (bytes : List UInt8) : Nat :=
  bytes.foldl (fun n b => n * 256 + b.toNat) 0

/-- The `count` lowest bytes of a number, most significant first. -/
def bytesOfNat (count n : Nat) : List UInt8 :=
  match count with
  | 0 => []
  | k + 1 => UInt8.ofNat (n / Nat.pow 256 k) :: bytesOfNat k n

/-- The blocks of `size + 1` entries that a list consists of; the last may be shorter. -/
def blocksOfSucc {α : Type} (size : Nat) (entries : List α) : List (List α) :=
  match entries with
  | [] => []
  | entry :: rest => (entry :: rest.take size) :: blocksOfSucc size (rest.drop size)
termination_by entries.length
decreasing_by simp only [List.length_drop, List.length_cons]; omega

def xorBytes (a b : List UInt8) : List UInt8 :=
  List.zipWith (· ^^^ ·) a b

/-- A message made a whole number of blocks of `block` bytes: a one bit, zero bits, and the length
of the message in bits as a number of `field` bytes. -/
def padMessage (block field : Nat) (message : List UInt8) : List UInt8 :=
  let used := (message.length + 1 + field) % block
  message ++ 0x80 :: List.replicate ((block - used) % block) 0 ++
    bytesOfNat field (message.length * 8)

/-- Entries appended one by one, each made from those before it. -/
def extendWith {α : Type} (next : Array α → α) : (count : Nat) → Array α → Array α
  | 0, entries => entries
  | k + 1, entries => extendWith next k (entries.push (next entries))

/-- The largest number whose power `k` is at most `n`, among the numbers below `2 ^ bits`. -/
def rootBelow (k n bits : Nat) : Nat :=
  (List.range bits).reverse.foldl
    (fun root bit => if Nat.pow (root + Nat.pow 2 bit) k ≤ n then root + Nat.pow 2 bit else root) 0

def primesBelow (bound : Nat) : List Nat :=
  (List.range bound).filter fun n =>
    decide (2 ≤ n) && (List.range n).all fun d => decide (d < 2) || n % d != 0

def rootPlaces (k bits n : Nat) : Nat :=
  rootBelow k (n * Nat.pow 2 (k * bits)) (bits + 5) % Nat.pow 2 bits

end ClientWiring.Crypto
