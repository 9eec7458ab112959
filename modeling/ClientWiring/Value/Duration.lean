import ClientWiring.Value.Whole
set_option autoImplicit false

/-! Durations given in milliseconds. An absent one leaves the default in force, zero lifts the
limit, and any other number is a limit in seconds. -/

namespace ClientWiring

inductive Duration where
  /-- Nothing is set, so the default holds. -/
  | unset
  | unlimited
  | seconds (x : Double)
  deriving DecidableEq, Repr

namespace Duration

def ofMillis (millis : Value) : Except NumberError Duration :=
  match millis with
  | .null => .ok unset
  | value =>
    match value.whole with
    | .error e => .error e
    | .ok n =>
      if n = 0 then .ok unlimited
      else
        match Value.secondsOfMillis n with
        | .ok x => .ok (seconds x)
        | .error e => .error e

def limit (default : Double) : Duration → Option Double
  | unset => some default
  | unlimited => none
  | seconds x => some x

end Duration

end ClientWiring
