import ClientWiring.Value.Basic
set_option autoImplicit false

/-! Points in time as records carry them: seconds since the start of 1970, written as a date and a
time of day in universal time. The fraction of a second is rounded to millionths, a half to the even
one, and left out when it is zero. -/

namespace ClientWiring

inductive TimeError where
  | notANumber
  | wrongType (typeName : String)
  | outOfRange
  | yearTooLarge
  | noSuchYear (year : Int)
  deriving DecidableEq, Repr

namespace TimeError

def message : TimeError → String
  | notANumber => "Invalid value NaN (not a number)"
  | wrongType typeName => "'" ++ typeName ++ "' object cannot be interpreted as an integer"
  | outOfRange => "timestamp out of range for platform time_t"
  | yearTooLarge => "[Errno 75] Value too large for defined data type"
  | noSuchYear year => "year " ++ toString year ++ " is out of range"

end TimeError

/-- A point in time: whole seconds since the start of 1970, and millionths. -/
structure Timestamp where
  seconds : Int
  micros : Nat
  deriving DecidableEq, Repr, Inhabited

namespace Timestamp

structure Date where
  year : Int
  month : Nat
  day : Nat
  deriving DecidableEq, Repr, Inhabited

/-- The date of a day, counted from the start of 1970. Years are counted from March, so that the
extra day of a leap year is the last of its year, and in cycles of 400 years, which have 146097
days. -/
def dateOfDay (day : Int) : Date :=
  let shifted := day + 719468
  let cycle := shifted / 146097
  let inCycle := (shifted % 146097).toNat
  let yearInCycle := (inCycle - inCycle / 1460 + inCycle / 36524 - inCycle / 146096) / 365
  let inYear := inCycle - (365 * yearInCycle + yearInCycle / 4 - yearInCycle / 100)
  let fromMarch := (5 * inYear + 2) / 153
  let month := if fromMarch < 10 then fromMarch + 3 else fromMarch - 9
  let year := cycle * 400 + yearInCycle + (if month ≤ 2 then 1 else 0)
  ⟨year, month, inYear - (153 * fromMarch + 2) / 5 + 1⟩

def padded (width n : Nat) : String :=
  let digits := Nat.toDigits 10 n
  String.ofList (List.replicate (width - digits.length) '0' ++ digits)

def text (t : Timestamp) : Except TimeError String :=
  let date := dateOfDay (t.seconds / 86400)
  let inDay := (t.seconds % 86400).toNat
  if t.seconds < -0x8000000000000000 ∨ 0x8000000000000000 ≤ t.seconds then .error .outOfRange
  else if date.year < 1900 - 0x80000000 ∨ 1900 + 0x80000000 ≤ date.year then
    .error .yearTooLarge
  else if date.year < 1 ∨ 9999 < date.year then
    .error (.noSuchYear (Int.bmod date.year 0x100000000))
  else
    .ok (padded 4 date.year.toNat ++ "-" ++ padded 2 date.month ++ "-" ++ padded 2 date.day ++
      "T" ++ padded 2 (inDay / 3600) ++ ":" ++ padded 2 (inDay / 60 % 60) ++ ":" ++
      padded 2 (inDay % 60) ++ (if t.micros = 0 then "" else "." ++ padded 6 t.micros) ++ "+00:00")

def ofDouble : Double → Except TimeError Timestamp
  | .nan => .error .notANumber
  | .infinite _ => .error .outOfRange
  | .finite negative mantissa exponent =>
    let (num, den) := Double.magnitude mantissa exponent
    let micros : Nat :=
      match Double.ofQuotient false (num % den * 1000000) den with
      | .finite _ mantissa exponent =>
        let (num, den) := Double.magnitude mantissa exponent
        Double.roundQuotient num den
      | _ => 0
    let whole : Int := (num / den : Nat)
    let total := whole * 1000000 + Int.ofNat micros
    let total := if negative then -total else total
    .ok ⟨total / 1000000, (total % 1000000).toNat⟩

/-- The point in time of a value, a number of seconds. -/
def ofValue : Value → Except TimeError Timestamp
  | .int n => .ok ⟨n, 0⟩
  | .bool b => .ok ⟨if b then 1 else 0, 0⟩
  | .float x => ofDouble x
  | value => .error (.wrongType value.typeName)

end Timestamp

end ClientWiring
