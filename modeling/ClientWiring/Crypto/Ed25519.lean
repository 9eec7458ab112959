import ClientWiring.Crypto.Sha512
set_option autoImplicit false

/-! Public keys of the signature scheme Ed25519. A point of the curve is kept as four numbers, so
that adding two points needs no division. -/

namespace ClientWiring.Crypto.Ed25519

def fieldSize : Nat :=
  Nat.pow 2 255 - 19

/-- A power in the field, by repeated squaring. -/
def power (base exponent : Nat) : Nat :=
  if exponent = 0 then 1
  else
    let root := power (base * base % fieldSize) (exponent / 2)
    if exponent % 2 = 1 then base * root % fieldSize else root
termination_by exponent
decreasing_by omega

def inverse (n : Nat) : Nat :=
  power n (fieldSize - 2)

/-- The constant of the curve, minus 121665 divided by 121666. -/
def constant : Nat :=
  (fieldSize - 121665) * inverse 121666 % fieldSize

/-- A point: its coordinates are `x / z` and `y / z`, and `t` is `x * y / z`. -/
structure Point where
  x : Nat
  y : Nat
  z : Nat
  t : Nat
  deriving DecidableEq, Repr

def neutral : Point :=
  ⟨0, 1, 1, 0⟩

def add (p q : Point) : Point :=
  let a := (p.y + (fieldSize - p.x)) * (q.y + (fieldSize - q.x)) % fieldSize
  let b := (p.y + p.x) * (q.y + q.x) % fieldSize
  let c := 2 * p.t * q.t * constant % fieldSize
  let d := 2 * p.z * q.z % fieldSize
  let e := b + (fieldSize - a)
  let f := d + (fieldSize - c)
  let g := d + c
  let h := b + a
  ⟨e * f % fieldSize, g * h % fieldSize, f * g % fieldSize, e * h % fieldSize⟩

/-- The generator: its second coordinate is four fifths, and the first one is even. -/
def generator : Point :=
  let x := 15112221349535400772501151409588531511454012693041857206046113283949847762202
  let y := 4 * inverse 5 % fieldSize
  ⟨x, y, 1, x * y % fieldSize⟩

def times (n : Nat) (p : Point) : Point :=
  if n = 0 then neutral
  else
    let half := times (n / 2) (add p p)
    if n % 2 = 1 then add p half else half
termination_by n
decreasing_by omega

/-- The bytes of a point: the second coordinate, least significant byte first, with the lowest bit
of the first coordinate on top. -/
def encode (p : Point) : List UInt8 :=
  let scale := inverse p.z
  let x := p.x * scale % fieldSize
  let y := p.y * scale % fieldSize
  (bytesOfNat 32 (y + x % 2 * Nat.pow 2 255)).reverse

/-- The number that a seed stands for: the lower half of its digest, rounded down to a multiple of
eight and with its highest two bits set to zero and one. -/
def secretNumber (seed : List UInt8) : Nat :=
  let n := natOfBytes ((Sha512.digest seed).take 32).reverse
  n % Nat.pow 2 254 / 8 * 8 + Nat.pow 2 254

def publicKey (seed : List UInt8) : List UInt8 :=
  encode (times (secretNumber seed) generator)

end ClientWiring.Crypto.Ed25519
