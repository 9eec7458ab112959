import ClientWiring.Crypto.Octets
set_option autoImplicit false

/-! The cipher AES with keys of 256 bits: the reading of texts that were encrypted in chained blocks
and padded. Bytes are polynomials over the field of two elements, multiplied modulo a fixed one of
degree eight; the substitution of bytes is computed from its rule. -/

namespace ClientWiring.Crypto.Aes

def double (b : UInt8) : UInt8 :=
  (b <<< 1) ^^^ (if b < 0x80 then 0 else 0x1B)

def mulBits : (bits : Nat) → UInt8 → UInt8 → UInt8
  | 0, _, _ => 0
  | k + 1, a, b => (if b &&& 1 = 1 then a else 0) ^^^ mulBits k (double a) (b >>> 1)

def mul (a b : UInt8) : UInt8 :=
  mulBits 8 a b

def allBytes : List UInt8 :=
  (List.range 256).map UInt8.ofNat

/-- The byte whose product with a byte is one; zero for zero. -/
def inverse (b : UInt8) : UInt8 :=
  (allBytes.find? fun c => mul b c = 1).getD 0

def rotate (b n : UInt8) : UInt8 :=
  (b <<< n) ||| (b >>> (8 - n))

def substituted (b : UInt8) : UInt8 :=
  let c := inverse b
  c ^^^ rotate c 1 ^^^ rotate c 2 ^^^ rotate c 3 ^^^ rotate c 4 ^^^ 0x63

def substitution : Array UInt8 :=
  (allBytes.map substituted).toArray

/-- The bytes that the substitution gives, read backwards. -/
def unsubstitution : Array UInt8 :=
  (allBytes.map fun b => UInt8.ofNat (substitution.toList.idxOf b)).toArray

def substitute (b : UInt8) : UInt8 :=
  substitution.getD b.toNat 0

def unsubstitute (b : UInt8) : UInt8 :=
  unsubstitution.getD b.toNat 0

def products (factor : UInt8) : Array UInt8 :=
  (allBytes.map (mul factor)).toArray

def times9 : Array UInt8 := products 9

def times11 : Array UInt8 := products 11

def times13 : Array UInt8 := products 13

def times14 : Array UInt8 := products 14

def keyWord (words : Array (List UInt8)) : List UInt8 :=
  let last := words.getD (words.size - 1) []
  let far := words.getD (words.size - 8) []
  let turned : List UInt8 :=
    if words.size % 8 = 0 then
      match (last.drop 1 ++ last.take 1).map substitute with
      | first :: rest => (first ^^^ UInt8.ofNat (Nat.pow 2 (words.size / 8 - 1))) :: rest
      | [] => []
    else if words.size % 8 = 4 then last.map substitute
    else last
  xorBytes far turned

/-- The fifteen round keys, last first. -/
def roundKeys (key : List UInt8) : List (List UInt8) :=
  let words := extendWith keyWord 52 (blocksOfSucc 3 key).toArray
  ((blocksOfSucc 3 words.toList).map List.flatten).reverse

/-- The rows of a block turned back, each by its number. -/
def unshift (block : List UInt8) : List UInt8 :=
  let block := block.toArray
  (List.range 16).map fun i => block.getD ((i + 16 - i % 4 * 4) % 16) 0

def unmixColumn : List UInt8 → List UInt8
  | [a, b, c, d] =>
    let sum (w x y z : UInt8) : UInt8 :=
      times14.getD w.toNat 0 ^^^ times11.getD x.toNat 0 ^^^ times13.getD y.toNat 0 ^^^
        times9.getD z.toNat 0
    [sum a b c d, sum b c d a, sum c d a b, sum d a b c]
  | column => column

def unmix (block : List UInt8) : List UInt8 :=
  (blocksOfSucc 3 block).flatMap unmixColumn

def decryptRounds : List (List UInt8) → List UInt8 → List UInt8
  | [], block => block
  | [last], block => xorBytes ((unshift block).map unsubstitute) last
  | key :: keys, block =>
    decryptRounds keys (unmix (xorBytes ((unshift block).map unsubstitute) key))

def decryptBlock (keys : List (List UInt8)) (block : List UInt8) : List UInt8 :=
  match keys with
  | first :: rest => decryptRounds rest (xorBytes block first)
  | [] => block

/-- Blocks decrypted, each combined with the encrypted block before it. -/
def decryptChained (keys : List (List UInt8)) :
    (before : List UInt8) → List (List UInt8) → List UInt8
  | _, [] => []
  | before, block :: rest =>
    xorBytes (decryptBlock keys block) before ++ decryptChained keys block rest

/-- A text without its padding: the last byte says how many bytes, all equal to it, were added. -/
def unpad? (text : List UInt8) : Option (List UInt8) :=
  match text.getLast? with
  | none => none
  | some last =>
    let count := last.toNat
    let kept := text.take (text.length - count)
    if 1 ≤ count ∧ count ≤ 16 ∧ text = kept ++ List.replicate count last then some kept else none

/-- The text that was encrypted under a key of 32 bytes, started from a block of 16 bytes; nothing
when the sizes or the padding are wrong. -/
def decrypt? (key start text : List UInt8) : Option (List UInt8) :=
  if key.length = 32 ∧ start.length = 16 ∧ text.length % 16 = 0 then
    unpad? (decryptChained (roundKeys key) start (blocksOfSucc 15 text))
  else none

end ClientWiring.Crypto.Aes
