import ClientWiring.Config.Setting
import ClientWiring.Number.Reading
set_option autoImplicit false

/-! Decoding one setting. A value of the wrong type is taken where its meaning is plain: a text or a
number with no fraction for a whole number, a word, zero or one for a flag. Every refusal names its
cause. -/

namespace ClientWiring

inductive DecodeFault where
  | textExpected
  | textEncoding
  | wholeExpected
  | wholeUnreadable
  | wholeTooLong
  | wholeHasFraction
  | notFinite
  | flagExpected
  | flagUnreadable
  /-- None of the words, in the order in which they are listed. -/
  | notAChoice (words : List String)
  | unknownName
  | frozen
  | dictionaryExpected
  | recordExpected (typeName : String)
  deriving DecidableEq, Repr

namespace DecodeFault

def code : DecodeFault → String
  | textExpected => "string_type"
  | textEncoding => "string_unicode"
  | wholeExpected => "int_type"
  | wholeUnreadable => "int_parsing"
  | wholeTooLong => "int_parsing_size"
  | wholeHasFraction => "int_from_float"
  | notFinite => "finite_number"
  | flagExpected => "bool_type"
  | flagUnreadable => "bool_parsing"
  | notAChoice _ => "enum"
  | unknownName => "extra_forbidden"
  | frozen => "frozen_instance"
  | dictionaryExpected => "dict_type"
  | recordExpected _ => "model_type"

def alternatives : List String → String
  | [] => ""
  | [word] => "'" ++ word ++ "'"
  | [first, last] => "'" ++ first ++ "' or '" ++ last ++ "'"
  | first :: rest => "'" ++ first ++ "', " ++ alternatives rest

def message : DecodeFault → String
  | textExpected => "Input should be a valid string"
  | textEncoding => "Input should be a valid string, unable to parse raw data as a unicode string"
  | wholeExpected => "Input should be a valid integer"
  | wholeUnreadable => "Input should be a valid integer, unable to parse string as an integer"
  | wholeTooLong => "Unable to parse input string as an integer, exceeded maximum size"
  | wholeHasFraction => "Input should be a valid integer, got a number with a fractional part"
  | notFinite => "Input should be a finite number"
  | flagExpected => "Input should be a valid boolean"
  | flagUnreadable => "Input should be a valid boolean, unable to interpret input"
  | notAChoice words => "Input should be " ++ alternatives words
  | unknownName => "Extra inputs are not permitted"
  | frozen => "Instance is frozen"
  | dictionaryExpected => "Input should be a valid dictionary"
  | recordExpected typeName => "Input should be a valid dictionary or instance of " ++ typeName

end DecodeFault

namespace Decode

/-- The text of a value that is a text, or of a byte string in UTF-8. -/
def textOf? (value : Value) : Option (Option String) :=
  match value with
  | .bytes b => some (String.fromUTF8? ⟨b.toArray⟩)
  | other => other.asText?.map some

def text (value : Value) : Except DecodeFault String :=
  match textOf? value with
  | some (some s) => .ok s
  | some none => .error .textEncoding
  | none => .error .textExpected

def wholeOfText (s : String) : Except DecodeFault Int :=
  match Number.readSetting s.toList with
  | .ok n => .ok n
  | .error .malformed => .error .wholeUnreadable
  | .error (.tooLong _) => .error .wholeTooLong

/-- Whether a whole number fits a signed word of 64 bits with the least one left out. -/
def fitsWord (n : Int) : Bool := -0x8000000000000000 < n && n < 0x8000000000000000

def wholeOfDouble (x : Double) : Except DecodeFault Int :=
  match x.truncate? with
  | none => .error .notFinite
  | some n =>
    if !x.isWhole then .error .wholeHasFraction
    else if fitsWord n then .ok n
    else .error .wholeTooLong

def whole (value : Value) : Except DecodeFault Int :=
  match value with
  | .int n => .ok n
  | .bool b => .ok (if b then 1 else 0)
  | .float x => wholeOfDouble x
  | other =>
    match textOf? other with
    | some (some s) => wholeOfText s
    | some none => .error .wholeUnreadable
    | none => .error .wholeExpected

def trueWords : List String := ["1", "on", "t", "true", "y", "yes"]

def falseWords : List String := ["0", "off", "f", "false", "n", "no"]

/-- The flag that a text stands for, in letters of either case and with nothing around it. -/
def flagOfText (s : String) : Except DecodeFault Bool :=
  let word := s.map Char.toLower
  if trueWords.contains word then .ok true
  else if falseWords.contains word then .ok false
  else .error .flagUnreadable

def flagOfInt (n : Int) : Except DecodeFault Bool :=
  if n = 0 then .ok false else if n = 1 then .ok true else .error .flagUnreadable

def flag (value : Value) : Except DecodeFault Bool :=
  match value with
  | .bool b => .ok b
  | .int n =>
    if -0x8000000000000000 ≤ n ∧ n < 0x8000000000000000 then flagOfInt n
    else .error .flagExpected
  | .float x =>
    match wholeOfDouble x with
    | .ok n => flagOfInt n
    | .error _ => .error .flagExpected
  | other =>
    match textOf? other with
    | some (some s) => flagOfText s
    | some none => .error .flagUnreadable
    | none => .error .flagExpected

def style (value : Value) : Except DecodeFault QueryStyle :=
  match value.asText?.bind QueryStyle.ofName? with
  | some style => .ok style
  | none => .error (.notAChoice (QueryStyle.all.map QueryStyle.name))

def encoder (value : Value) : Except DecodeFault EncoderMode :=
  match value.asText?.bind EncoderMode.ofName? with
  | some mode => .ok mode
  | none => .error (.notAChoice (EncoderMode.all.map EncoderMode.name))

end Decode

def Kind.decode : (kind : Kind) → Value → Except DecodeFault kind.Carrier
  | .text, value => Decode.text value
  | .whole, value => Decode.whole value
  | .flag, value => Decode.flag value
  | .style, value => Decode.style value
  | .encoder, value => Decode.encoder value

end ClientWiring
