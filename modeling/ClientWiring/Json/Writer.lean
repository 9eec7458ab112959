import ClientWiring.Text.Hex
import ClientWiring.Value.Text
set_option autoImplicit false

/-! JSON text of a value on one line of printable ASCII. Every character outside that range is
escaped, above the basic plane by a pair of surrogates. Values that JSON has no form for are written
as the text of their plain form; numbers that are not finite are written by name. -/

namespace ClientWiring.Json

def unitEscape (unit : Nat) : List Char :=
  '\\' :: 'u' :: Text.hexDigits 4 unit

def escapedChar (c : Char) : List Char :=
  let n := c.toNat
  if c == '"' then ['\\', '"']
  else if c == '\\' then ['\\', '\\']
  else if c == '\n' then ['\\', 'n']
  else if c == '\r' then ['\\', 'r']
  else if c == '\t' then ['\\', 't']
  else if n == 0x08 then ['\\', 'b']
  else if n == 0x0C then ['\\', 'f']
  else if 0x20 ≤ n && n ≤ 0x7E then [c]
  else if n < 0x10000 then unitEscape n
  else unitEscape (0xD800 + (n - 0x10000) / 0x400) ++ unitEscape (0xDC00 + (n - 0x10000) % 0x400)

def writeString (s : String) : List Char :=
  '"' :: (s.toList.flatMap escapedChar ++ ['"'])

/-- A number; the names of the numbers that are not finite are those of the data format's common
extension. -/
def writeDouble : Double → List Char
  | .nan => "NaN".toList
  | .infinite negative => if negative then "-Infinity".toList else "Infinity".toList
  | x => x.text.toList

mutual

def write : Value → List Char
  | .null => "null".toList
  | .bool b => if b then "true".toList else "false".toList
  | .int n => (Value.decimal n).toList
  | .float x => writeDouble x
  | .text s => writeString s
  | .bytes b => writeString (Value.bytes b).plain
  | .list items => '[' :: (writeItems items ++ [']'])
  | .tuple items => '[' :: (writeItems items ++ [']'])
  | .dict entries => '\x7b' :: (writeEntries entries ++ ['\x7d'])
  | .style s => writeString s.name
  | .encoder m => writeString m.name

def writeItems : List Value → List Char
  | [] => []
  | [item] => write item
  | item :: rest => write item ++ ',' :: ' ' :: writeItems rest

def writeEntries : List (String × Value) → List Char
  | [] => []
  | [(key, item)] => writeString key ++ ':' :: ' ' :: write item
  | (key, item) :: rest =>
    writeString key ++ ':' :: ' ' :: (write item ++ ',' :: ' ' :: writeEntries rest)

end

/-- The text of a value that the runtime gives. -/
def render [Runtime] (value : Value) : Except WriteError String :=
  WriteError.orText (value.refusal? .json (Runtime.writeLevels .json)) (String.ofList (write value))

end ClientWiring.Json
