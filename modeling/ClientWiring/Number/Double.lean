set_option autoImplicit false

/-! Binary64 numbers as exact values. A finite number is a sign, a mantissa and a power of two, so
every question about it is one of whole-number arithmetic; rounding a quotient of natural numbers to
the nearest such number, ties to even, is the only operation that loses anything. -/

namespace ClientWiring

/-- A binary64 number. The finite value is `± mantissa · 2 ^ exponent`; the functions of this module
build only the form in which the mantissa has 53 bits or the exponent is -1074. -/
inductive Double where
  | finite (negative : Bool) (mantissa : Nat) (exponent : Int)
  | infinite (negative : Bool)
  | nan
  deriving DecidableEq, Repr, Inhabited

namespace Double

def leastExponent : Int := -1074

def greatestExponent : Int := 971

def zero (negative : Bool) : Double := .finite negative 0 leastExponent

/-- The quotient of two natural numbers rounded to the nearest whole number, a half to the even
one. -/
def roundQuotient (num den : Nat) : Nat :=
  let low := num / den
  let twice := 2 * (num % den)
  if twice < den then low
  else if den < twice then low + 1
  else if low % 2 = 0 then low else low + 1

def scaledQuotient (num den : Nat) (exponent : Int) : Nat × Nat :=
  if 0 ≤ exponent then (num, den * Nat.pow 2 exponent.toNat)
  else (num * Nat.pow 2 (-exponent).toNat, den)

/-- The exponent of the last place of the number nearest to a positive quotient. -/
def placeOf (num den : Nat) : Int :=
  let guess := max ((Nat.log2 num : Int) - Nat.log2 den - 53) leastExponent
  let scaled := scaledQuotient num den guess
  if Nat.pow 2 53 ≤ scaled.1 / scaled.2 then guess + 1 else guess

/-- The number with a rounded mantissa; a mantissa that rounded up to 54 bits moves one place, and
an exponent beyond the largest gives an infinity. -/
def ofRounded (negative : Bool) (mantissa : Nat) (exponent : Int) : Double :=
  let (mantissa, exponent) :=
    if mantissa = Nat.pow 2 53 then (Nat.pow 2 52, exponent + 1) else (mantissa, exponent)
  if greatestExponent < exponent then .infinite negative else .finite negative mantissa exponent

/-- The number nearest to `± num / den`, ties to even. -/
def ofQuotient (negative : Bool) (num den : Nat) : Double :=
  if num = 0 ∨ den = 0 then zero negative
  else
    let place := placeOf num den
    let scaled := scaledQuotient num den place
    ofRounded negative (roundQuotient scaled.1 scaled.2) place

def ofInt (n : Int) : Double :=
  ofQuotient (n < 0) n.natAbs 1

/-- The number nearest to `± digits · 10 ^ power`. A power so large or so small that the digits
cannot matter is decided without computing it. -/
def ofDecimal (negative : Bool) (digits : Nat) (power : Int) : Double :=
  let size : Int := Nat.log2 digits
  if digits = 0 then zero negative
  else if power > 400 then .infinite negative
  else if power < 0 ∧ size + 1200 < -3 * power then zero negative
  else if 0 ≤ power then ofQuotient negative (digits * Nat.pow 10 power.toNat) 1
  else ofQuotient negative digits (Nat.pow 10 (-power).toNat)

def magnitude (mantissa : Nat) (exponent : Int) : Nat × Nat :=
  if 0 ≤ exponent then (mantissa * Nat.pow 2 exponent.toNat, 1)
  else (mantissa, Nat.pow 2 (-exponent).toNat)

/-- The whole part, towards zero; nothing for a number that is not finite. -/
def truncate? : Double → Option Int
  | .finite negative mantissa exponent =>
    let (num, den) := magnitude mantissa exponent
    let whole : Int := (num / den : Nat)
    some (if negative then -whole else whole)
  | _ => none

def isWhole : Double → Bool
  | .finite _ mantissa exponent =>
    let (num, den) := magnitude mantissa exponent
    num % den = 0
  | _ => false

def isFinite : Double → Bool
  | .finite .. => true
  | _ => false

def isNegative : Double → Bool
  | .finite negative .. => negative
  | .infinite negative => negative
  | .nan => false

def isZero : Double → Bool
  | .finite _ mantissa _ => mantissa = 0
  | _ => false

end Double

end ClientWiring
