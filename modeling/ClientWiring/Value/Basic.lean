import ClientWiring.Config.Choice
import ClientWiring.Dictionary
import ClientWiring.Number.Double
set_option autoImplicit false

/-! The values that calls, log records and decoded bodies carry. They are data of unknown shape: a
query parameter, a builder property and a body can each hold any of them. -/

namespace ClientWiring

/-- A value of unknown shape. A dictionary lists each of its keys once. -/
inductive Value where
  | null
  | bool (b : Bool)
  | int (n : Int)
  | float (x : Double)
  | text (s : String)
  | bytes (b : List UInt8)
  | list (items : List Value)
  | tuple (items : List Value)
  | dict (entries : List (String × Value))
  | style (style : QueryStyle)
  | encoder (mode : EncoderMode)
  deriving Repr, Inhabited

namespace Value

def typeName : Value → String
  | null => "NoneType"
  | bool _ => "bool"
  | int _ => "int"
  | float _ => "float"
  | text _ => "str"
  | bytes _ => "bytes"
  | list _ => "list"
  | tuple _ => "tuple"
  | dict _ => "dict"
  | style _ => QueryStyle.typeName
  | encoder _ => EncoderMode.typeName

def asText? : Value → Option String
  | text s => some s
  | style s => some s.name
  | encoder m => some m.name
  | _ => none

/-- The items of a sequence; a text is no sequence here. -/
def items? : Value → Option (List Value)
  | list items => some items
  | tuple items => some items
  | _ => none

def isTruthy : Value → Bool
  | null => false
  | bool b => b
  | int n => n != 0
  | float x => !x.isZero
  | text s => !s.isEmpty
  | bytes b => !b.isEmpty
  | list items => !items.isEmpty
  | tuple items => !items.isEmpty
  | dict entries => !entries.isEmpty
  | style _ => true
  | encoder _ => true

end Value

end ClientWiring
