import ClientWiring.Number.Reading
import ClientWiring.Value.Basic
set_option autoImplicit false

/-! What a runtime refuses to write although it has a text: a whole number of too many digits, and a
value that is nested deeper than the stack goes. -/

namespace ClientWiring

/-- The forms in which values of any shape are written: as literals and as JSON text. -/
inductive WriteForm where
  | literal
  | json
  deriving DecidableEq, Repr

/-- How many levels of a value the stack has room for, where it is written and where it is read. -/
class Runtime where
  writeLevels : WriteForm → Nat
  readLevels : Nat

inductive WriteError where
  | tooManyDigits
  | tooDeep (form : WriteForm)
  deriving DecidableEq, Repr

namespace WriteError

def message : WriteError → String
  | tooManyDigits =>
    "Exceeds the limit (" ++ toString Number.digitLimit ++ " digits) for integer string " ++
      "conversion; use sys.set_int_max_str_digits() to increase the limit"
  | tooDeep .literal => "maximum recursion depth exceeded while getting the repr of an object"
  | tooDeep .json => "maximum recursion depth exceeded while encoding a JSON object"

/-- A text, unless it is refused. -/
def orText (refusal? : Option WriteError) (text : String) : Except WriteError String :=
  refusal?.elim (.ok text) .error

end WriteError

/-- Every literal takes a level. In JSON text only what holds other values does, and bytes, as another
text is written for them. -/
def WriteForm.takesLevel : WriteForm → Value → Bool
  | literal, _ => true
  | json, .bytes _ => true
  | json, .list _ => true
  | json, .tuple _ => true
  | json, .dict _ => true
  | json, _ => false

namespace Value

def digitsOf (n : Int) : List Char :=
  Nat.toDigits 10 n.natAbs

mutual

/-- The first thing for which a value is not written where there is room for `levels` levels. -/
def refusal? (form : WriteForm) (levels : Nat) (value : Value) : Option WriteError :=
  if levels = 0 ∧ form.takesLevel value then some (.tooDeep form)
  else
    match value with
    | .int n => if Number.digitLimit < (digitsOf n).length then some .tooManyDigits else none
    | .list items => refusals? form (levels - 1) items
    | .tuple items => refusals? form (levels - 1) items
    | .dict entries => entryRefusals? form (levels - 1) entries
    | _ => none

def refusals? (form : WriteForm) (levels : Nat) : List Value → Option WriteError
  | [] => none
  | item :: rest => (refusal? form levels item).or (refusals? form levels rest)

def entryRefusals? (form : WriteForm) (levels : Nat) :
    List (String × Value) → Option WriteError
  | [] => none
  | (_, item) :: rest => (refusal? form levels item).or (entryRefusals? form levels rest)

end

end Value

namespace Sample

/-- As much room as there is near the bottom of a stack of a thousand levels. -/
scoped instance runtime : Runtime := ⟨fun _ => 980, 990⟩

end Sample

end ClientWiring
