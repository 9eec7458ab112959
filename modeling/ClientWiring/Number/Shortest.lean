import ClientWiring.Number.Double
set_option autoImplicit false

/-! The shortest decimal text of a binary64 number. Every real number of an interval around a finite
number rounds to it; among the decimals inside that interval those with the fewest digits are
considered and the nearest of them is printed. Positional notation is used where the decimal
exponent lies between -4 and 15. -/

namespace ClientWiring.Double

structure Decimal where
  digits : Nat
  power : Int
  deriving DecidableEq, Repr

def digitCount (n : Nat) : Nat := (Nat.toDigits 10 n).length

/-- Whether the decimal `d · 10 ^ power` rounds to `mantissa · 2 ^ exponent`. Doubling twice keeps
both ends of the interval whole: below a power of two the gap is half as wide. -/
def roundsTo (mantissa : Nat) (exponent : Int) (d : Nat) (power : Int) : Bool :=
  let narrow := mantissa == Nat.pow 2 52 && exponent != leastExponent
  let low := if narrow then 4 * mantissa - 1 else 4 * mantissa - 2
  let high := 4 * mantissa + 2
  let twos := exponent - 2
  -- compare d · 10 ^ power with low · 2 ^ twos and high · 2 ^ twos over natural numbers
  let left := d * (if 0 ≤ power then Nat.pow 10 power.toNat else 1) *
    (if 0 ≤ twos then 1 else Nat.pow 2 (-twos).toNat)
  let scale := (if 0 ≤ power then 1 else Nat.pow 10 (-power).toNat) *
    (if 0 ≤ twos then Nat.pow 2 twos.toNat else 1)
  if mantissa % 2 = 0 then low * scale ≤ left && left ≤ high * scale
  else low * scale < left && left < high * scale

/-- The two neighbours of `mantissa · 2 ^ exponent` on the grid of multiples of `10 ^ power`, with
whether the upper one is nearer; on a tie the even one is. -/
def neighbours (mantissa : Nat) (exponent : Int) (power : Int) : Nat × Nat × Bool :=
  let num := mantissa * (if 0 ≤ exponent then Nat.pow 2 exponent.toNat else 1) *
    (if 0 ≤ power then 1 else Nat.pow 10 (-power).toNat)
  let den := (if 0 ≤ exponent then 1 else Nat.pow 2 (-exponent).toNat) *
    (if 0 ≤ power then Nat.pow 10 power.toNat else 1)
  let low := num / den
  let twice := 2 * (num % den)
  (low, low + 1, den < twice || (twice == den && low % 2 == 1))

/-- The neighbour to print on one grid: the nearer of those that round to the number. -/
def candidate (mantissa : Nat) (exponent : Int) (power : Int) : Option Decimal :=
  let (low, high, upper) := neighbours mantissa exponent power
  let lowFits := 0 < low && roundsTo mantissa exponent low power
  let highFits := roundsTo mantissa exponent high power
  if lowFits && highFits then some ⟨if upper then high else low, power⟩
  else if lowFits then some ⟨low, power⟩
  else if highFits then some ⟨high, power⟩
  else none

def leadingPower (mantissa : Nat) (exponent : Int) : Int :=
  let (num, den) := magnitude mantissa exponent
  if den ≤ num then (digitCount (num / den) : Int) - 1
  else
    let scale := digitCount den - digitCount num + 1
    (digitCount (num * Nat.pow 10 scale / den) : Int) - 1 - scale

/-- The shortest decimal that rounds to a positive number, searched from one digit upwards. -/
def shortestFrom (mantissa : Nat) (exponent : Int) (leading : Int) : Nat → Decimal
  | 0 => (candidate mantissa exponent (leading - 17)).getD ⟨mantissa, 0⟩
  | left + 1 =>
    match candidate mantissa exponent (leading - (17 - (left + 1) : Nat)) with
    | some found => found
    | none => shortestFrom mantissa exponent leading left

def dropZeros (fuel : Nat) (d : Decimal) : Decimal :=
  match fuel with
  | 0 => d
  | fuel + 1 => if d.digits % 10 = 0 then dropZeros fuel ⟨d.digits / 10, d.power + 1⟩ else d

def shortest (mantissa : Nat) (exponent : Int) : Decimal :=
  dropZeros 20 (shortestFrom mantissa exponent (leadingPower mantissa exponent) 17)

def exponentText (e : Int) : List Char :=
  let digits := Nat.toDigits 10 e.natAbs
  let padded := if digits.length < 2 then '0' :: digits else digits
  (if e < 0 then '-' else '+') :: padded

/-- The text of a positive decimal: positional with a fraction of at least one digit, or with an
exponent where the leading digit stands at 10 ^ 16 or above, or below 10 ^ -4. -/
def Decimal.text (d : Decimal) : List Char :=
  let digits := Nat.toDigits 10 d.digits
  let count : Int := digits.length
  let leading := d.power + count - 1
  if -4 ≤ leading ∧ leading < 16 then
    if 0 ≤ d.power then digits ++ List.replicate d.power.toNat '0' ++ ['.', '0']
    else if leading < 0 then
      ['0', '.'] ++ List.replicate (-leading - 1).toNat '0' ++ digits
    else
      let whole := (leading + 1).toNat
      digits.take whole ++ ['.'] ++ digits.drop whole
  else
    let mark := 'e' :: exponentText leading
    match digits with
    | [] => mark
    | [one] => one :: mark
    | first :: rest => first :: '.' :: rest ++ mark

def text : Double → String
  | .finite negative mantissa exponent =>
    let body := if mantissa = 0 then ['0', '.', '0'] else (shortest mantissa exponent).text
    String.ofList (if negative then '-' :: body else body)
  | .infinite negative => if negative then "-inf" else "inf"
  | .nan => "nan"

end ClientWiring.Double
