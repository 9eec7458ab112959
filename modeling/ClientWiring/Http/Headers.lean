import ClientWiring.Text.Hex
import ClientWiring.Text.UpperCase
set_option autoImplicit false

/-! Header fields of a message, in order. Names are compared without regard to case, and one name
may stand in several fields. Names and values are sent in ASCII. -/

namespace ClientWiring

abbrev Headers := List (String × String)

namespace Headers

def sameName (a b : String) : Bool :=
  Text.lowerAscii a == Text.lowerAscii b

def has (headers : Headers) (name : String) : Bool :=
  headers.any fun field => sameName field.1 name

/-- The values of all fields of a name, with commas between them. -/
def get? (headers : Headers) (name : String) : Option String :=
  match headers.filter fun field => sameName field.1 name with
  | [] => none
  | fields => some (", ".intercalate (fields.map (·.2)))

def erase (headers : Headers) (name : String) : Headers :=
  headers.filter fun field => !sameName field.1 name

/-- The fields with one field of a name: in the place of the first of them, else last. -/
def set (headers : Headers) (name value : String) : Headers :=
  match headers with
  | [] => [(name, value)]
  | field :: rest =>
    if sameName field.1 name then (name, value) :: erase rest name
    else field :: set rest name value

/-- The fields with a field of a name at the end, where no field has that name. -/
def setDefault (headers : Headers) (name value : String) : Headers :=
  if headers.has name then headers else headers ++ [(name, value)]

end Headers

/-- Characters of a field that cannot be sent: the first of them, its place, and their number. -/
structure UnsendableField where
  first : Char
  position : Nat
  count : Nat
  deriving DecidableEq, Repr

namespace UnsendableField

def message (error : UnsendableField) : String :=
  "'ascii' codec can't encode " ++
    (if error.count = 1 then
      "character '" ++ String.ofList (Text.codeEscape error.first) ++ "' in position " ++
        toString error.position
    else
      "characters in position " ++ toString error.position ++ "-" ++
        toString (error.position + error.count - 1)) ++
    ": ordinal not in range(128)"

def ofText? (text : String) : Option UnsendableField :=
  let cs := text.toList
  let sent := cs.takeWhile Text.isAscii
  match cs.dropWhile Text.isAscii with
  | [] => none
  | c :: rest =>
    some ⟨c, sent.length, (c :: rest).takeWhile (fun d => !Text.isAscii d) |>.length⟩

end UnsendableField

def Headers.sendable (headers : Headers) : Except UnsendableField Headers :=
  match headers.findSome? fun field =>
    (UnsendableField.ofText? field.1).orElse fun _ => UnsendableField.ofText? field.2 with
  | some error => .error error
  | none => .ok headers

end ClientWiring
