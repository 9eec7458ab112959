import ClientWiring.Number.Reading
import ClientWiring.Value.Text
set_option autoImplicit false

/-! Whole numbers taken from values. A truth value counts as one or zero, a number is truncated, a
text or byte string is read; everything else is refused. -/

namespace ClientWiring

inductive NumberError where
  | malformed (literal : String)
  | tooLong (digits : Nat)
  | notANumber
  | infinite
  | wrongType (typeName : String)
  | quotientTooLarge
  deriving DecidableEq, Repr

namespace NumberError

def message : NumberError → String
  | malformed literal =>
    "invalid literal for int() with base 10: " ++ String.ofList (literal.toList.take 200)
  | tooLong digits =>
    "Exceeds the limit (" ++ toString Number.digitLimit ++
      ") for integer string conversion: value has " ++ toString digits ++
      " digits; use sys.set_int_max_str_digits() to increase the limit"
  | notANumber => "cannot convert float NaN to integer"
  | infinite => "cannot convert float infinity to integer"
  | wrongType typeName =>
    "int() argument must be a string, a bytes-like object or a real number, not '" ++ typeName ++
      "'"
  | quotientTooLarge => "integer division result too large for a float"

end NumberError

namespace Value

def wholeOfText (chars : List Char) (literal : String) : Except NumberError Int :=
  match Number.readWhole chars with
  | .ok n => .ok n
  | .error .malformed => .error (.malformed literal)
  | .error (.tooLong digits) => .error (.tooLong digits)

/-- The ASCII character of a byte; a byte outside ASCII becomes a character that is in no
numeral. -/
def asciiOrReplacement (b : UInt8) : Char :=
  if b < 0x80 then Char.ofNat b.toNat else '\uFFFD'

def whole (value : Value) : Except NumberError Int :=
  match value with
  | bool b => .ok (if b then 1 else 0)
  | int n => .ok n
  | float x =>
    match x.truncate?, x with
    | some n, _ => .ok n
    | none, .nan => .error .notANumber
    | none, _ => .error .infinite
  | text s => wholeOfText s.toList (Text.quoted s)
  | bytes b => wholeOfText (b.map asciiOrReplacement) (Text.quotedBytes b)
  | style s => wholeOfText s.name.toList (wordLiteral QueryStyle.typeName s.name)
  | encoder m => wholeOfText m.name.toList (wordLiteral EncoderMode.typeName m.name)
  | other => .error (.wrongType other.typeName)

def secondsOfMillis (millis : Int) : Except NumberError Double :=
  match Double.ofQuotient (millis < 0) millis.natAbs 1000 with
  | .infinite _ => .error .quotientTooLarge
  | seconds => .ok seconds

end Value

end ClientWiring
