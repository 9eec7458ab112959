import ClientWiring.Number.Double
import Mathlib.Algebra.Order.Field.Power
import Mathlib.Tactic.FieldSimp
import Mathlib.Tactic.Linarith
import Mathlib.Tactic.NormNum
import Mathlib.Tactic.Positivity
import Mathlib.Tactic.Ring
set_option autoImplicit false

/-! Rounding to binary64 numbers. Around each positive number lies an interval of the rationals that
round to it; a quotient or a decimal in that interval is read as the number. -/

namespace ClientWiring.Double

def IsNarrow (mantissa : Nat) (exponent : Int) : Prop :=
  mantissa = 2 ^ 52 ∧ exponent ≠ leastExponent

instance (mantissa : Nat) (exponent : Int) : Decidable (IsNarrow mantissa exponent) := by
  unfold IsNarrow
  infer_instance

/-- Quarters of the last place from a number down to the end of its interval. -/
def gap (mantissa : Nat) (exponent : Int) : Nat :=
  if IsNarrow mantissa exponent then 1 else 2

/-- A rational lies in the interval around `mantissa · 2 ^ exponent`. The ends belong to the
interval of an even mantissa. -/
structure Rounds (mantissa : Nat) (exponent : Int) (value : ℚ) : Prop where
  above : (4 * mantissa - gap mantissa exponent) * (2 : ℚ) ^ (exponent - 2) ≤ value
  below : value ≤ (4 * mantissa + 2) * (2 : ℚ) ^ (exponent - 2)
  inside : mantissa % 2 = 1 →
    (4 * mantissa - gap mantissa exponent) * (2 : ℚ) ^ (exponent - 2) < value ∧
      value < (4 * mantissa + 2) * (2 : ℚ) ^ (exponent - 2)

section Powers

theorem zpow_two_pos (z : Int) : (0 : ℚ) < 2 ^ z := zpow_pos (by norm_num) z

theorem zpow_two_add (k : Nat) (z : Int) : (2 : ℚ) ^ ((k : Int) + z) = 2 ^ k * 2 ^ z := by
  rw [zpow_add₀ (by norm_num), zpow_natCast]

end Powers

section Quotient

variable {num den : Nat}

end Quotient

section Nearest

variable {mantissa : Nat} {exponent : Int}

theorem gap_le (mantissa : Nat) (exponent : Int) : (gap mantissa exponent : ℚ) ≤ 2 := by
  unfold gap
  split <;> norm_num

theorem zpow_quarter (exponent : Int) : (2 : ℚ) ^ exponent = 4 * 2 ^ (exponent - 2) := by
  rw [show exponent = ((2 : Nat) : Int) + (exponent - 2) by omega, zpow_two_add]
  norm_num

theorem ends_halves (mantissa : Nat) (exponent : Int) :
    (2 * mantissa - 1) * (2 : ℚ) ^ exponent ≤
        2 * ((4 * mantissa - gap mantissa exponent) * 2 ^ (exponent - 2)) ∧
      2 * ((4 * mantissa + 2) * (2 : ℚ) ^ (exponent - 2)) = (2 * mantissa + 1) * 2 ^ exponent := by
  have unit := zpow_two_pos (exponent - 2)
  have narrow := gap_le mantissa exponent
  rw [zpow_quarter exponent]
  constructor
  · nlinarith
  · ring

namespace Rounds

variable {value : ℚ}

theorem halves (rounds : Rounds mantissa exponent value) :
    (2 * mantissa - 1) * (2 : ℚ) ^ exponent ≤ 2 * value ∧
      2 * value ≤ (2 * mantissa + 1) * 2 ^ exponent := by
  obtain ⟨low, high⟩ := ends_halves mantissa exponent
  exact ⟨by linarith [rounds.above], by linarith [rounds.below]⟩

end Rounds

end Nearest

section Decimals

variable {mantissa : Nat} {exponent : Int} {digits : Nat} {power : Int}

end Decimals

end ClientWiring.Double
