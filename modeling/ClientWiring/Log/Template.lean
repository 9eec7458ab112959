import ClientWiring.Number.Places
import ClientWiring.Value.Text
import ClientWiring.Value.Whole
set_option autoImplicit false

/-! Message templates. A percent sign starts a field: an optional key in parentheses, flags, a
width, a number of places, and a letter that says how a value is written. Fields take the arguments
in turn, or, where the only argument is a dictionary, also its entries by key. Two percent signs
stand for one. -/

namespace ClientWiring.Template

inductive FillError where
  | tooFewArguments
  | tooManyArguments
  /-- A field has a key, and the arguments are no dictionary. -/
  | noDictionary
  | missingKey (key : String)
  | unfinishedKey
  | unfinished
  /-- No such letter; its place in the template is counted from zero. -/
  | unknownLetter (letter : Char) (place : Nat)
  /-- A star stands for the width or the number of places, and the argument is no whole number. -/
  | starNotWhole
  | starWidthOutOfRange
  | starPlacesOutOfRange
  | widthTooLarge
  | placesTooLarge
  /-- The letter takes numbers, and the value is of another type. -/
  | notReal (letter : Char) (typeName : String)
  | notWhole (letter : Char) (typeName : String)
  | notFloating (typeName : String)
  | notCharacter
  | noSuchCharacter
  | tooLargeToFloat
  | number (error : NumberError)
  | refused (error : WriteError)
  deriving DecidableEq, Repr

namespace FillError

def message : FillError → String
  | tooFewArguments => "not enough arguments for format string"
  | tooManyArguments => "not all arguments converted during string formatting"
  | noDictionary => "format requires a mapping"
  | missingKey key => Text.quoted key
  | unfinishedKey => "incomplete format key"
  | unfinished => "incomplete format"
  | unknownLetter letter place =>
    let shown := if 31 < letter.toNat ∧ letter.toNat < 127 then letter else '?'
    "unsupported format character '" ++ String.singleton shown ++ "' (0x" ++
      String.ofList (Nat.toDigits 16 letter.toNat) ++ ") at index " ++ toString place
  | starNotWhole => "* wants int"
  | starWidthOutOfRange => "Python int too large to convert to C ssize_t"
  | starPlacesOutOfRange => "Python int too large to convert to C int"
  | widthTooLarge => "width too big"
  | placesTooLarge => "precision too big"
  | notReal letter typeName =>
    "%" ++ String.singleton letter ++ " format: a real number is required, not " ++ typeName
  | notWhole letter typeName =>
    "%" ++ String.singleton letter ++ " format: an integer is required, not " ++ typeName
  | notFloating typeName => "must be real number, not " ++ typeName
  | notCharacter => "%c requires int or char"
  | noSuchCharacter => "%c arg not in range(0x110000)"
  | tooLargeToFloat => "int too large to convert to float"
  | number error => error.message
  | refused error => error.message

end FillError

/-! ### Arguments -/

/-- The arguments that are left. -/
inductive Arguments where
  | list (values : List Value)
  /-- A dictionary, and the value that a field without a key takes. -/
  | dictionary (entries : Dictionary Value) (next : Option Value)
  deriving Repr, Inhabited

namespace Arguments

/-- The arguments of a record. A dictionary that is the only argument and not empty is taken by
keys. -/
def ofValues : List Value → Arguments
  | [.dict (entry :: entries)] =>
    .dictionary (entry :: entries) (some (.dict (entry :: entries)))
  | values => .list values

def next : Arguments → Except FillError (Value × Arguments)
  | list (value :: rest) => .ok (value, .list rest)
  | list [] => .error .tooFewArguments
  | dictionary entries (some value) => .ok (value, .dictionary entries none)
  | dictionary _ none => .error .tooFewArguments

/-- The arguments after a key was given: the next one is the entry under it. -/
def select (key : String) : Arguments → Except FillError Arguments
  | list _ => .error .noDictionary
  | dictionary entries _ =>
    match entries.get? key with
    | some value => .ok (.dictionary entries (some value))
    | none => .error (.missingKey key)

def allTaken : Arguments → Bool
  | list values => values.isEmpty
  | dictionary _ _ => true

end Arguments

/-! ### Fields -/

structure Shape where
  left : Bool
  plus : Bool
  blank : Bool
  alternate : Bool
  zeros : Bool
  width : Nat
  places : Option Nat
  deriving DecidableEq, Repr, Inhabited

namespace Shape

def plain : Shape := ⟨false, false, false, false, false, 0, none⟩

def flag? (shape : Shape) (c : Char) : Option Shape :=
  match c with
  | '-' => some { shape with left := true }
  | '+' => some { shape with plus := true }
  | ' ' => some { shape with blank := true }
  | '#' => some { shape with alternate := true }
  | '0' => some { shape with zeros := true }
  | _ => none

def pad (shape : Shape) (text : List Char) : List Char :=
  let gap := List.replicate (shape.width - text.length) ' '
  if shape.left then text ++ gap else gap ++ text

def sign (shape : Shape) (negative : Bool) : List Char :=
  if negative then ['-'] else if shape.plus then ['+'] else if shape.blank then [' '] else []

/-- A number brought to the width: zeros stand between what is in front and the digits. -/
def padNumber (shape : Shape) (front digits : List Char) : List Char :=
  if shape.zeros && !shape.left then
    front ++ List.replicate (shape.width - front.length - digits.length) '0' ++ digits
  else shape.pad (front ++ digits)

end Shape

def readFlags (shape : Shape) : List Char → Shape × List Char
  | [] => (shape, [])
  | c :: rest =>
    match shape.flag? c with
    | some shape => readFlags shape rest
    | none => (shape, c :: rest)

def widthLimit : Nat := 0x7FFFFFFFFFFFFFFF

def placesLimit : Nat := 0x7FFFFFFF

/-- The number that digits at the front of a text write, and what follows. -/
def readNumber (cs : List Char) : Nat × List Char :=
  (Number.ofDigits ((cs.takeWhile Text.isAsciiDigit).filterMap Number.asciiDigit?),
    cs.dropWhile Text.isAsciiDigit)

def wholeArgument (arguments : Arguments) : Except FillError (Int × Arguments) := do
  let (value, arguments) ← arguments.next
  match value with
  | .int n => pure (n, arguments)
  | .bool b => pure (if b then 1 else 0, arguments)
  | _ => throw .starNotWhole

/-- The width of a field. A star takes it from the arguments, where a negative one asks for the left
side. -/
def readWidth (shape : Shape) (cs : List Char) (arguments : Arguments) :
    Except FillError (Shape × List Char × Arguments) :=
  match cs with
  | '*' :: rest => do
    let (width, arguments) ← wholeArgument arguments
    if width < -0x8000000000000000 ∨ 0x8000000000000000 ≤ width then throw .starWidthOutOfRange
    pure ({ shape with left := shape.left || width < 0, width := width.natAbs }, rest, arguments)
  | cs =>
    let (width, rest) := readNumber cs
    if widthLimit < width then throw .widthTooLarge
    else pure ({ shape with width := width }, rest, arguments)

def readPlaces (shape : Shape) (cs : List Char) (arguments : Arguments) :
    Except FillError (Shape × List Char × Arguments) :=
  match cs with
  | '.' :: '*' :: rest => do
    let (places, arguments) ← wholeArgument arguments
    if places < -0x80000000 ∨ 0x80000000 ≤ places then throw .starPlacesOutOfRange
    pure ({ shape with places := some places.toNat }, rest, arguments)
  | '.' :: rest =>
    let (places, rest) := readNumber rest
    if placesLimit < places then throw .placesTooLarge
    else pure ({ shape with places := some places }, rest, arguments)
  | cs => pure (shape, cs, arguments)

/-- The key up to the parenthesis that closes it, and what follows; parentheses inside are
paired. -/
def readKey (depth : Nat) (key : List Char) : List Char → Option (String × List Char)
  | [] => none
  | '(' :: rest => readKey (depth + 1) ('(' :: key) rest
  | ')' :: rest =>
    match depth with
    | 0 => some (String.ofList key.reverse, rest)
    | depth + 1 => readKey depth (')' :: key) rest
  | c :: rest => readKey depth (c :: key) rest

/-! ### Values -/

/-- A whole number in a base, with the mark of the base where it is asked for. -/
def wholeText (shape : Shape) (base : Nat) (mark : List Char) (capital : Bool) (n : Int) :
    List Char :=
  let digits := Nat.toDigits base n.natAbs
  let digits := List.replicate (shape.places.getD 0 - digits.length) '0' ++ digits
  let digits := if capital then digits.map Char.toUpper else digits
  shape.padNumber (shape.sign (n < 0) ++ (if shape.alternate then mark else [])) digits

def decimal (letter : Char) : Value → Except FillError Int
  | .int n =>
    if Number.digitLimit < (Value.digitsOf n).length then .error (.refused .tooManyDigits)
    else .ok n
  | .bool b => .ok (if b then 1 else 0)
  | .float x => (Value.float x).whole.mapError .number
  | value => .error (.notReal letter value.typeName)

def wholeOnly (letter : Char) : Value → Except FillError Int
  | .int n => .ok n
  | .bool b => .ok (if b then 1 else 0)
  | value => .error (.notWhole letter value.typeName)

def floating : Value → Except FillError Double
  | .float x => .ok x
  | .bool b => .ok (.ofInt (if b then 1 else 0))
  | .int n => if (Double.ofInt n).isFinite then .ok (.ofInt n) else .error .tooLargeToFloat
  | value => .error (.notFloating value.typeName)

def floatText (shape : Shape) (form : Number.Form) (capital : Bool) (x : Double) : List Char :=
  let body := Number.formText form shape.alternate (shape.places.getD 6) x
  shape.padNumber (shape.sign x.isNegative) (if capital then body.map Char.toUpper else body)

def textField (shape : Shape) (text : String) : List Char :=
  shape.pad (match shape.places with
    | some places => text.toList.take places
    | none => text.toList)

def asciiText (text : String) : String :=
  String.ofList (text.toList.flatMap fun c => if Text.isAscii c then [c] else Text.codeEscape c)

def character : Value → Except FillError Char
  | .text s =>
    match s.toList with
    | [c] => .ok c
    | _ => .error .notCharacter
  | .int n => ofCode n
  | .bool b => ofCode (if b then 1 else 0)
  | _ => .error .notCharacter
where
  ofCode (n : Int) : Except FillError Char :=
    if 0 ≤ n ∧ n < 0x110000 then .ok (Char.ofNat n.toNat) else .error .noSuchCharacter

variable [Runtime]

/-- A value written as a letter says; `place` is where the letter stands. -/
def fieldText (shape : Shape) (letter : Char) (place : Nat) (value : Value) :
    Except FillError (List Char) :=
  match letter with
  | 's' => (value.givenPlain.mapError .refused).map (textField shape)
  | 'r' => (value.givenLiteral.mapError .refused).map (textField shape)
  | 'a' =>
    (value.givenLiteral.mapError .refused).map fun text => textField shape (asciiText text)
  | 'c' => (character value).map fun c => shape.pad [c]
  | 'd' | 'i' | 'u' => (decimal letter value).map (wholeText shape 10 [] false)
  | 'o' => (wholeOnly letter value).map (wholeText shape 8 ['0', 'o'] false)
  | 'x' => (wholeOnly letter value).map (wholeText shape 16 ['0', 'x'] false)
  | 'X' => (wholeOnly letter value).map (wholeText shape 16 ['0', 'X'] true)
  | 'e' | 'E' => (floating value).map (floatText shape .exponential (letter == 'E'))
  | 'f' | 'F' => (floating value).map (floatText shape .positional (letter == 'F'))
  | 'g' | 'G' => (floating value).map (floatText shape .general (letter == 'G'))
  | letter => .error (.unknownLetter letter place)

/-- The text of the field behind a percent sign, what follows the field, and the arguments left. The
template has `size` characters. -/
def field (size : Nat) (cs : List Char) (arguments : Arguments) :
    Except FillError (List Char × List Char × Arguments) := do
  let (cs, arguments) ←
    match cs with
    | '(' :: rest =>
      match arguments, readKey 0 [] rest with
      | .list _, _ => throw .noDictionary
      | _, none => throw .unfinishedKey
      | arguments, some (key, rest) => pure (rest, ← arguments.select key)
    | cs => pure (cs, arguments)
  let (shape, cs) := readFlags .plain cs
  let (shape, cs, arguments) ← readWidth shape cs arguments
  let (shape, cs, arguments) ← readPlaces shape cs arguments
  let cs :=
    match cs with
    | c :: rest => if c == 'h' || c == 'l' || c == 'L' then rest else c :: rest
    | [] => []
  match cs with
  | [] => throw .unfinished
  | letter :: rest =>
    let (value, arguments) ← arguments.next
    pure (← fieldText shape letter (size - rest.length - 1) value, rest, arguments)

/-- The text of a template from some place on; `done` holds the text before it, last first. A field
is never read twice, so a template of `fuel` characters is read to its end. -/
def fillFrom (size : Nat) (fuel : Nat) (done cs : List Char) (arguments : Arguments) :
    Except FillError (List Char × Arguments) :=
  match fuel, cs with
  | _, [] => .ok (done.reverse, arguments)
  | 0, _ :: _ => .ok (done.reverse, arguments)
  | fuel + 1, '%' :: '%' :: rest => fillFrom size fuel ('%' :: done) rest arguments
  | fuel + 1, '%' :: rest =>
    match field size rest arguments with
    | .error e => .error e
    | .ok (text, rest, arguments) => fillFrom size fuel (text.reverse ++ done) rest arguments
  | fuel + 1, c :: rest => fillFrom size fuel (c :: done) rest arguments

def fill (template : String) (values : List Value) : Except FillError String :=
  if values.isEmpty then .ok template
  else do
    let cs := template.toList
    let (text, arguments) ← fillFrom cs.length cs.length [] cs (Arguments.ofValues values)
    if arguments.allTaken then pure (String.ofList text) else throw .tooManyArguments

end ClientWiring.Template
