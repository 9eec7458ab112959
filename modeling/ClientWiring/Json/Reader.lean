import ClientWiring.Number.Reading
import ClientWiring.Text.CodePoint
set_option autoImplicit false

/-! Reading JSON text. Numbers without fraction and exponent become whole numbers, the others
binary64 numbers; the names of the numbers that are not finite are read; a repeated member keeps its
first place and its last value. A string keeps the halves of pairs that stand alone in it, written
out or escaped. Reading stops at the first fault. -/

namespace ClientWiring.Json

inductive Node where
  | null
  | bool (b : Bool)
  | int (n : Int)
  | float (x : Double)
  | text (points : CodePoints)
  | list (items : List Node)
  | dict (members : List (CodePoints × Node))
  deriving Repr, Inhabited

/-- The members with one under a key: in the old place if the key is present, else last. -/
def setMember (members : List (CodePoints × Node)) (key : CodePoints) (node : Node) :
    List (CodePoints × Node) :=
  match members with
  | [] => [(key, node)]
  | member :: rest =>
    if member.1 = key then (key, node) :: rest else member :: setMember rest key node

/-- What is refused although it is well formed. -/
structure Limits where
  digits : Option Nat
  depth : Nat

inductive ReadError where
  | malformed
  | tooManyDigits (digits : Nat)
  /-- Arrays, or objects, are nested deeper than the limit. -/
  | tooDeep (inArray : Bool)
  deriving DecidableEq, Repr

abbrev Read (τ α : Type) := Except ReadError (α × List τ)

/-- What is read from the characters in front of the first half of a pair. -/
def readLeading {α : Type} (reader : List Char → Read Char α) (points : CodePoints) :
    Read CodePoint α :=
  (reader points.leading.1).map fun read =>
    (read.1, CodePoints.ofChars read.2 ++ points.leading.2)

def isSpace (c : Char) : Bool :=
  c == ' ' || c == '\t' || c == '\n' || c == '\r'

def skipSpace (points : CodePoints) : CodePoints :=
  points.dropWhile fun
    | .char c => isSpace c
    | .half _ => false

def hexUnit? : List Char → Option (Nat × List Char)
  | a :: b :: c :: d :: rest => do
    let a ← Text.hexValue? a
    let b ← Text.hexValue? b
    let c ← Text.hexValue? c
    let d ← Text.hexValue? d
    pure (((a * 16 + b) * 16 + c) * 16 + d, rest)
  | _ => none

def isHighUnit (unit : Nat) : Bool := 0xD800 ≤ unit && unit ≤ 0xDBFF

def isLowUnit (unit : Nat) : Bool := 0xDC00 ≤ unit && unit ≤ 0xDFFF

def lowUnit? : List Char → Option (Nat × List Char)
  | '\\' :: 'u' :: rest =>
    match hexUnit? rest with
    | some (unit, rest) => if isLowUnit unit then some (unit, rest) else none
    | none => none
  | _ => none

/-- The code point of a `\u` escape whose marker has been read. A half is joined to the other half
behind it, or stands alone. -/
def unicodeEscape (cs : List Char) : Read Char CodePoint :=
  match hexUnit? cs with
  | none => .error .malformed
  | some (unit, rest) =>
    match if isHighUnit unit then lowUnit? rest else none with
    | some (low, rest) =>
      .ok (.char (Char.ofNat (0x10000 + (unit - 0xD800) * 0x400 + (low - 0xDC00))), rest)
    | none => .ok (.ofCode unit, rest)

def simpleEscape? : Char → Option Char
  | '"' => some '"'
  | '\\' => some '\\'
  | '/' => some '/'
  | 'b' => some '\x08'
  | 'f' => some '\x0c'
  | 'n' => some '\n'
  | 'r' => some '\r'
  | 't' => some '\t'
  | _ => none

/-- The code point of an escape whose backslash has been read. -/
def readEscape (points : CodePoints) : Read CodePoint CodePoint :=
  match points with
  | .char 'u' :: rest => readLeading unicodeEscape rest
  | .char letter :: rest =>
    match simpleEscape? letter with
    | some c => .ok (.char c, rest)
    | none => .error .malformed
  | _ => .error .malformed

/-- The rest of a string whose opening quote has been read; `done` holds what was read, the last code
point first. -/
def readStringRest (fuel : Nat) (done points : CodePoints) : Read CodePoint CodePoints :=
  match fuel, points with
  | 0, _ => .error .malformed
  | _ + 1, [] => .error .malformed
  | fuel + 1, .half place :: rest => readStringRest fuel (.half place :: done) rest
  | fuel + 1, .char c :: rest =>
    if c == '"' then .ok (done.reverse, rest)
    else if c.toNat < 0x20 then .error .malformed
    else if c == '\\' then
      match readEscape rest with
      | .ok (point, rest) => readStringRest fuel (point :: done) rest
      | .error e => .error e
    else readStringRest fuel (.char c :: done) rest

/-- The fraction of a number: a point and at least one digit, else nothing. -/
def fraction? : List Char → Option (List Char × List Char)
  | '.' :: rest =>
    let digits := rest.takeWhile Text.isAsciiDigit
    if digits.isEmpty then none else some (digits, rest.dropWhile Text.isAsciiDigit)
  | _ => none

def exponent? : List Char → Option (Int × List Char)
  | mark :: rest =>
    if mark == 'e' || mark == 'E' then
      let (negative, body) := Number.splitSign rest
      let digits := body.takeWhile Text.isAsciiDigit
      if digits.isEmpty then none
      else
        let value := Number.ofDigits (digits.filterMap Number.asciiDigit?)
        some (Number.signed negative value, body.dropWhile Text.isAsciiDigit)
    else none
  | [] => none

/-- The whole part of a number: a zero, or digits of which the first is not zero. -/
def wholePart (cs : List Char) : List Char × List Char :=
  match cs with
  | '0' :: rest => (['0'], rest)
  | _ => (cs.takeWhile Text.isAsciiDigit, cs.dropWhile Text.isAsciiDigit)

def readNumber (limits : Limits) (negative : Bool) (cs : List Char) : Read Char Node :=
  let (whole, rest) := wholePart cs
  if whole.isEmpty then .error .malformed
  else
    let fraction := fraction? rest
    let rest := (fraction.map (·.2)).getD rest
    let exponent := exponent? rest
    let rest := (exponent.map (·.2)).getD rest
    let value (digits : List Char) := Number.ofDigits (digits.filterMap Number.asciiDigit?)
    if fraction.isNone && exponent.isNone then
      match limits.digits with
      | some limit =>
        if limit < whole.length then .error (.tooManyDigits whole.length)
        else .ok (.int (Number.signed negative (value whole)), rest)
      | none => .ok (.int (Number.signed negative (value whole)), rest)
    else
      let places := (fraction.map (·.1)).getD []
      let power := (exponent.map (·.1)).getD 0
      .ok (.float (Double.ofDecimal negative (value (whole ++ places)) (power - places.length)),
        rest)

/-- The text after a word, where it starts with that word. -/
def afterWord? : List Char → List Char → Option (List Char)
  | [], cs => some cs
  | w :: word, c :: cs => if w = c then afterWord? word cs else none
  | _ :: _, [] => none

def words : List (List Char × Node) := [
  ("null".toList, .null), ("true".toList, .bool true), ("false".toList, .bool false),
  ("NaN".toList, .float .nan), ("Infinity".toList, .float (.infinite false)),
  ("-Infinity".toList, .float (.infinite true))]

def word? (cs : List Char) : Option (Node × List Char) :=
  words.findSome? fun entry => (afterWord? entry.1 cs).map fun rest => (entry.2, rest)

/-- A value that is no string, no array and no object: a named one or a number. -/
def readScalar (limits : Limits) (cs : List Char) : Read Char Node :=
  match word? cs with
  | some read => .ok read
  | none =>
    match cs with
    | '-' :: rest => readNumber limits true rest
    | cs => readNumber limits false cs

mutual

/-- A value that starts at the front of a text, `depth` levels further down at most. -/
def readValue (limits : Limits) (fuel depth : Nat) (points : CodePoints) : Read CodePoint Node :=
  match fuel with
  | 0 => .error .malformed
  | fuel + 1 =>
    match points with
    | .char '"' :: rest =>
      (readStringRest (rest.length + 1) [] rest).map fun read => (.text read.1, read.2)
    | .char '[' :: rest =>
      match depth with
      | 0 => .error (.tooDeep true)
      | depth + 1 =>
        match skipSpace rest with
        | .char ']' :: rest => .ok (.list [], rest)
        | rest => readItems limits fuel depth [] rest
    | .char '\x7b' :: rest =>
      match depth with
      | 0 => .error (.tooDeep false)
      | depth + 1 =>
        match skipSpace rest with
        | .char '\x7d' :: rest => .ok (.dict [], rest)
        | rest => readMembers limits fuel depth [] rest
    | points => readLeading (readScalar limits) points

/-- The items of an array from one of them on; `done` holds those read, the last one first. -/
def readItems (limits : Limits) (fuel depth : Nat) (done : List Node) (points : CodePoints) :
    Read CodePoint Node :=
  match fuel with
  | 0 => .error .malformed
  | fuel + 1 =>
    match readValue limits fuel depth points with
    | .error e => .error e
    | .ok (item, rest) =>
      match skipSpace rest with
      | .char ',' :: rest => readItems limits fuel depth (item :: done) (skipSpace rest)
      | .char ']' :: rest => .ok (.list (item :: done).reverse, rest)
      | _ => .error .malformed

def readMembers (limits : Limits) (fuel depth : Nat) (done : List (CodePoints × Node))
    (points : CodePoints) : Read CodePoint Node :=
  match fuel with
  | 0 => .error .malformed
  | fuel + 1 =>
    match points with
    | .char '"' :: rest =>
      match readStringRest (rest.length + 1) [] rest with
      | .error e => .error e
      | .ok (key, rest) =>
        match skipSpace rest with
        | .char ':' :: rest =>
          match readValue limits fuel depth (skipSpace rest) with
          | .error e => .error e
          | .ok (item, rest) =>
            match skipSpace rest with
            | .char ',' :: rest =>
              readMembers limits fuel depth (setMember done key item) (skipSpace rest)
            | .char '\x7d' :: rest => .ok (.dict (setMember done key item), rest)
            | _ => .error .malformed
        | _ => .error .malformed
    | _ => .error .malformed

end

def read (limits : Limits) (points : CodePoints) : Except ReadError Node :=
  match readValue limits (2 * points.length + 2) limits.depth (skipSpace points) with
  | .error e => .error e
  | .ok (node, rest) => if (skipSpace rest).isEmpty then .ok node else .error .malformed

end ClientWiring.Json
