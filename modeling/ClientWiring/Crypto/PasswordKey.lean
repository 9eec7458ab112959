import ClientWiring.Crypto.Sha256
set_option autoImplicit false

/-! Authentication codes and keys that are derived from passwords, all with SHA-256. -/

namespace ClientWiring.Crypto

def hmac (key message : List UInt8) : List UInt8 :=
  let key := if 64 < key.length then Sha256.digest key else key
  let key := key ++ List.replicate (64 - key.length) 0
  Sha256.digest (key.map (· ^^^ 0x5C) ++ Sha256.digest (key.map (· ^^^ 0x36) ++ message))

/-- The exclusive or of the codes in a chain, each the code of the one before it. -/
def hmacChain (key : List UInt8) : (count : Nat) → (last total : List UInt8) → List UInt8
  | 0, _, total => total
  | k + 1, last, total =>
    let next := hmac key last
    hmacChain key k next (xorBytes total next)

def passwordKey (password salt : List UInt8) (rounds length : Nat) : List UInt8 :=
  let block (i : Nat) : List UInt8 :=
    let first := hmac password (salt ++ bytesOfNat 4 (i + 1))
    hmacChain password (rounds - 1) first first
  ((List.range ((length + 31) / 32)).flatMap block).take length

def digestTimes : (count : Nat) → List UInt8 → List UInt8
  | 0, bytes => bytes
  | k + 1, bytes => digestTimes k (Sha256.digest bytes)

def repeatToBlocks (bytes : List UInt8) : List UInt8 :=
  let length := (bytes.length + 63) / 64 * 64
  ((List.replicate length bytes).flatten).take length

/-- The blocks of an archive's key, made from the material left: each is a repeated digest, after
which every block of the material is advanced by it and one. -/
def archiveKeyBlocks (purpose : UInt8) (rounds : Nat) : (count : Nat) → List UInt8 → List UInt8
  | 0, _ => []
  | k + 1, material =>
    let key := digestTimes rounds (List.replicate 64 purpose ++ material)
    let step := natOfBytes ((repeatToBlocks key).take 64) + 1
    key ++ archiveKeyBlocks purpose rounds k
      ((blocksOfSucc 63 material).flatMap fun block => bytesOfNat 64 (natOfBytes block + step))

/-- The key of an archive; `purpose` tells the keys of one password and salt apart. -/
def archiveKey (purpose : UInt8) (password salt : List UInt8) (rounds length : Nat) : List UInt8 :=
  (archiveKeyBlocks purpose rounds ((length + 31) / 32)
    (repeatToBlocks salt ++ repeatToBlocks password)).take length

end ClientWiring.Crypto
