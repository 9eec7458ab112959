set_option autoImplicit false

/-! Base64 with the standard alphabet and padding. Decoding is strict: groups of four, padding at
the end only, and no bits left over that are not zero, so exactly the texts that encoding produces
are decoded. -/

namespace ClientWiring.Text

def base64Digit (n : Nat) : Char :=
  if n < 26 then Char.ofNat (0x41 + n)
  else if n < 52 then Char.ofNat (0x61 + (n - 26))
  else if n < 62 then Char.ofNat (0x30 + (n - 52))
  else if n = 62 then '+'
  else '/'

def base64Value? (c : Char) : Option Nat :=
  let n := c.toNat
  if 0x41 ≤ n ∧ n ≤ 0x5A then some (n - 0x41)
  else if 0x61 ≤ n ∧ n ≤ 0x7A then some (n - 0x61 + 26)
  else if 0x30 ≤ n ∧ n ≤ 0x39 then some (n - 0x30 + 52)
  else if c = '+' then some 62
  else if c = '/' then some 63
  else none

def encodeBase64 : List UInt8 → List Char
  | [] => []
  | [a] =>
    let n := a.toNat * 16
    [base64Digit (n / 64), base64Digit (n % 64), '=', '=']
  | [a, b] =>
    let n := (a.toNat * 256 + b.toNat) * 4
    [base64Digit (n / 4096), base64Digit (n / 64 % 64), base64Digit (n % 64), '=']
  | a :: b :: c :: rest =>
    let n := (a.toNat * 256 + b.toNat) * 256 + c.toNat
    base64Digit (n / 262144) :: base64Digit (n / 4096 % 64) :: base64Digit (n / 64 % 64) ::
      base64Digit (n % 64) :: encodeBase64 rest

def base64Group? (a b c d : Char) : Option (List UInt8) := do
  let a ← base64Value? a
  let b ← base64Value? b
  let c ← base64Value? c
  let d ← base64Value? d
  let n := ((a * 64 + b) * 64 + c) * 64 + d
  pure [UInt8.ofNat (n / 65536), UInt8.ofNat (n / 256 % 256), UInt8.ofNat (n % 256)]

/-- The bytes of the last group, which may be padded. -/
def base64LastGroup? (a b c d : Char) : Option (List UInt8) :=
  if d = '=' then
    if c = '=' then do
      let a ← base64Value? a
      let b ← base64Value? b
      if b % 16 = 0 then pure [UInt8.ofNat (a * 4 + b / 16)] else none
    else do
      let a ← base64Value? a
      let b ← base64Value? b
      let c ← base64Value? c
      let n := (a * 64 + b) * 64 + c
      if c % 4 = 0 then pure [UInt8.ofNat (n / 1024), UInt8.ofNat (n / 4 % 256)] else none
  else base64Group? a b c d

def decodeBase64From (done : List UInt8) : List Char → Option (List UInt8)
  | [] => some done.reverse
  | [a, b, c, d] => (base64LastGroup? a b c d).map fun last => done.reverse ++ last
  | a :: b :: c :: d :: rest =>
    match base64Group? a b c d with
    | some bytes => decodeBase64From (bytes.reverse ++ done) rest
    | none => none
  | _ => none

def decodeBase64? (text : List Char) : Option (List UInt8) :=
  decodeBase64From [] text

end ClientWiring.Text
