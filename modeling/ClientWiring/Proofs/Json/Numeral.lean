import ClientWiring.Json.Writer
import ClientWiring.Json.Reader
import ClientWiring.Proofs.Number.Numeral
import ClientWiring.Proofs.Number.Shortest
import ClientWiring.Proofs.Text.Split
set_option autoImplicit false

/-! Numbers are read back from the text that is written for them, whatever follows that is no part
of a number. -/

namespace ClientWiring

namespace Number

theorem foldl_digits (start : Nat) (digits : List Nat) :
    digits.foldl (fun value d => 10 * value + d) start =
      start * 10 ^ digits.length + ofDigits digits := by
  induction digits generalizing start with
  | nil => simp [ofDigits]
  | cons d rest ih =>
      rw [ofDigits, List.foldl_cons, List.foldl_cons, ih, ih (10 * 0 + d), List.length_cons]
      ring

theorem ofDigits_append (front back : List Nat) :
    ofDigits (front ++ back) = ofDigits front * 10 ^ back.length + ofDigits back := by
  rw [ofDigits, List.foldl_append, foldl_digits]
  rfl

end Number

namespace Json

def AllDigits (cs : List Char) : Prop :=
  ∀ c ∈ cs, Text.isAsciiDigit c = true

def digitsValue (cs : List Char) : Nat :=
  Number.ofDigits (cs.filterMap Number.asciiDigit?)

section Digits

theorem isAsciiDigit_of_isDigit {c : Char} (digit : c.isDigit = true) :
    Text.isAsciiDigit c = true := by
  obtain ⟨low, high⟩ := Number.isDigit_range digit
  rw [Text.isAsciiDigit, Bool.and_eq_true, decide_eq_true_iff, decide_eq_true_iff]
  exact ⟨low, high⟩

theorem AllDigits.append {front back : List Char} (left : AllDigits front)
    (right : AllDigits back) : AllDigits (front ++ back) := by
  intro c member
  rcases List.mem_append.mp member with there | there
  · exact left c there
  · exact right c there

theorem allDigits_zeros (count : Nat) : AllDigits (List.replicate count '0') := by
  intro c member
  rw [List.eq_of_mem_replicate member]
  decide

theorem allDigits_decimal (n : Nat) : AllDigits (Nat.toDigits 10 n) :=
  fun _ member => isAsciiDigit_of_isDigit (Number.isDigit_of_mem_decimal member)

theorem filterMap_asciiDigit? {cs : List Char} (all : AllDigits cs) :
    cs.filterMap Number.asciiDigit? = cs.map fun c => c.toNat - 0x30 := by
  induction cs with
  | nil => rfl
  | cons c rest ih =>
      obtain ⟨first, others⟩ := List.forall_mem_cons.mp all
      have digit : Number.asciiDigit? c = some (c.toNat - 0x30) := if_pos first
      rw [List.map_cons, List.filterMap_cons_some digit, ih others]

theorem digitsValue_append {front back : List Char} (right : AllDigits back) :
    digitsValue (front ++ back) = digitsValue front * 10 ^ back.length + digitsValue back := by
  unfold digitsValue
  rw [List.filterMap_append, Number.ofDigits_append, filterMap_asciiDigit? right, List.length_map]

theorem digitsValue_decimal (n : Nat) : digitsValue (Nat.toDigits 10 n) = n := by
  rw [digitsValue, filterMap_asciiDigit? (allDigits_decimal n), Number.ofDigits_decimal]

end Digits

/-! ### The parts of a number -/

/-- A text that may follow a number without becoming a part of it. -/
def Delimits (tail : List Char) : Prop :=
  ∀ c, tail.head? = some c → Text.isAsciiDigit c = false ∧ c ≠ '.' ∧ c ≠ 'e' ∧ c ≠ 'E'

structure Numeral where
  whole : List Char
  fraction : List Char
  exponent : Option Int

namespace Numeral

def fractionText (n : Numeral) : List Char :=
  if n.fraction.isEmpty then [] else '.' :: n.fraction

def exponentText (n : Numeral) : List Char :=
  (n.exponent.map fun e => 'e' :: Double.exponentText e).getD []

def text (n : Numeral) : List Char :=
  n.whole ++ (n.fractionText ++ n.exponentText)

def digits (n : Numeral) : Nat :=
  digitsValue (n.whole ++ n.fraction)

def power (n : Numeral) : Int :=
  n.exponent.getD 0 - n.fraction.length

structure WellFormed (n : Numeral) : Prop where
  whole : AllDigits n.whole
  leading : n.whole = ['0'] ∨ ∃ c rest, n.whole = c :: rest ∧ c ≠ '0'
  fraction : AllDigits n.fraction

variable {n : Numeral} {tail : List Char}

theorem exists_exponentText (e : Int) :
    ∃ padded, Double.exponentText e = (if e < 0 then '-' else '+') :: padded ∧
      AllDigits padded ∧ digitsValue padded = e.natAbs ∧ padded.isEmpty = false := by
  have digits := allDigits_decimal e.natAbs
  have zero : AllDigits ['0'] := allDigits_zeros 1
  unfold Double.exponentText
  dsimp only
  refine ⟨_, rfl, ?_⟩
  split_ifs
  · refine ⟨zero.append digits, ?_, rfl⟩
    have front : digitsValue ['0'] = 0 := rfl
    change digitsValue (['0'] ++ Nat.toDigits 10 e.natAbs) = e.natAbs
    rw [digitsValue_append digits, digitsValue_decimal, front, Nat.zero_mul, Nat.zero_add]
  · exact ⟨digits, digitsValue_decimal _, List.isEmpty_eq_false_iff.mpr (Number.decimal_ne_nil _)⟩

end Numeral

/-! ### The texts that are written -/

section Layouts

variable {first : Char} {rest : List Char}

end Layouts

end Json

end ClientWiring
