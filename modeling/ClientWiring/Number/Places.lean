import ClientWiring.Number.Shortest
set_option autoImplicit false

/-! Numbers written with a given number of places, rounded to the nearest such number, a half to the
even one. The forms are: positional, with an exponent, and whichever of the two is the shorter one
for the size of the number. Each is given the quotient of natural numbers that the number is. -/

namespace ClientWiring.Number

def digitsAtLeast (width n : Nat) : List Char :=
  let digits := Nat.toDigits 10 n
  List.replicate (width - digits.length) '0' ++ digits

/-- Digits with a point before the last `places` of them. Without places there is a point only where
`pointed` asks for one. -/
def withPoint (pointed : Bool) (places : Nat) (digits : List Char) : List Char :=
  let whole := digits.take (digits.length - places)
  if places = 0 then (if pointed then whole ++ ['.'] else whole)
  else whole ++ '.' :: digits.drop (digits.length - places)

def positional (pointed : Bool) (places num den : Nat) : List Char :=
  withPoint pointed places
    (digitsAtLeast (places + 1) (Double.roundQuotient (num * Nat.pow 10 places) den))

/-- A quotient in the given number of places after its first digit: the digits and the exponent of
the first one. -/
def leadingDigits (places num den : Nat) (leading : Int) : Nat × Int :=
  if num = 0 then (0, 0)
  else
    let shift := (places : Int) - leading
    let digits :=
      if 0 ≤ shift then Double.roundQuotient (num * Nat.pow 10 shift.toNat) den
      else Double.roundQuotient num (den * Nat.pow 10 (-shift).toNat)
    if digits = Nat.pow 10 (places + 1) then (digits / 10, leading + 1) else (digits, leading)

def exponential (pointed : Bool) (places : Nat) (digits : Nat × Int) : List Char :=
  withPoint pointed places (digitsAtLeast (places + 1) digits.1) ++
    'e' :: Double.exponentText digits.2

def withoutZeros (text : List Char) : List Char :=
  if text.contains '.' then
    (text.reverse.dropWhile (· == '0')).dropWhile (· == '.') |>.reverse
  else text

/-- The form with an exponent, if the first digit stands before the fifth place behind the point or
beyond the digits that are given, and else the positional form, both in the given number of
digits. -/
def general (pointed : Bool) (count num den : Nat) (leading : Int) : List Char :=
  let places := max count 1 - 1
  let digits := leadingDigits places num den leading
  if -4 ≤ digits.2 ∧ digits.2 ≤ places then
    let text := positional pointed ((places : Int) - digits.2).toNat num den
    if pointed then text else withoutZeros text
  else
    let body := withPoint pointed places (digitsAtLeast (places + 1) digits.1)
    (if pointed then body else withoutZeros body) ++ 'e' :: Double.exponentText digits.2

inductive Form where
  | positional
  | exponential
  | general
  deriving DecidableEq, Repr

def formText (form : Form) (pointed : Bool) (places : Nat) : Double → List Char
  | .nan => "nan".toList
  | .infinite _ => "inf".toList
  | .finite _ mantissa exponent =>
    let (num, den) := Double.magnitude mantissa exponent
    let leading := if mantissa = 0 then 0 else Double.leadingPower mantissa exponent
    match form with
    | .positional => positional pointed places num den
    | .exponential => exponential pointed places (leadingDigits places num den leading)
    | .general => general pointed places num den leading

end ClientWiring.Number
