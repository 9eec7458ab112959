import ClientWiring.Json.Writer
set_option autoImplicit false

/-! JSON text without blanks and with every character above the control characters as it is, for
bodies that are sent. Bytes and numbers that are not finite have no such text. -/

namespace ClientWiring.Json

inductive CompactError where
  | notFinite
  | bytes
  | refused (error : WriteError)
  deriving DecidableEq, Repr

def CompactError.message : CompactError → String
  | notFinite => "Out of range float values are not JSON compliant"
  | bytes => "Object of type bytes is not JSON serializable"
  | refused error => error.message

def compactChar (c : Char) : List Char :=
  if 0x7E < c.toNat then [c] else escapedChar c

def compactString (s : String) : List Char :=
  '"' :: (s.toList.flatMap compactChar ++ ['"'])

mutual

def compactWithin (levels : Nat) (value : Value) : Except CompactError (List Char) :=
  match value with
  | .text s => .ok (compactString s)
  | .style s => .ok (compactString s.name)
  | .encoder m => .ok (compactString m.name)
  | .bytes _ => .error .bytes
  | .float .nan => .error .notFinite
  | .float (.infinite _) => .error .notFinite
  | .list items =>
    if levels = 0 then .error (.refused (.tooDeep .json))
    else (compactItems (levels - 1) items).map fun text => '[' :: (text ++ [']'])
  | .tuple items =>
    if levels = 0 then .error (.refused (.tooDeep .json))
    else (compactItems (levels - 1) items).map fun text => '[' :: (text ++ [']'])
  | .dict entries =>
    if levels = 0 then .error (.refused (.tooDeep .json))
    else (compactEntries (levels - 1) entries).map fun text => '\x7b' :: (text ++ ['\x7d'])
  | value =>
    match value.refusal? .json levels with
    | some e => .error (.refused e)
    | none => .ok (write value)

def compactItems (levels : Nat) : List Value → Except CompactError (List Char)
  | [] => .ok []
  | [item] => compactWithin levels item
  | item :: rest => do
    let first ← compactWithin levels item
    let others ← compactItems levels rest
    pure (first ++ ',' :: others)

def compactEntries (levels : Nat) : List (String × Value) → Except CompactError (List Char)
  | [] => .ok []
  | [(key, item)] =>
    (compactWithin levels item).map fun text => compactString key ++ ':' :: text
  | (key, item) :: rest => do
    let first ← compactWithin levels item
    let others ← compactEntries levels rest
    pure (compactString key ++ ':' :: (first ++ ',' :: others))

end

def compact [Runtime] (value : Value) : Except CompactError (List Char) :=
  compactWithin (Runtime.writeLevels .json) value

end ClientWiring.Json
