import ClientWiring.Dictionary
import ClientWiring.Text.Blank
import ClientWiring.Text.Decoding
set_option autoImplicit false

/-! Files of environment variables. A line binds a name to a value, which may be quoted and then
runs over several lines; a name may stand without a value, and a line that binds nothing is skipped.
A value refers to another variable by its name in braces behind a dollar sign, quoted or not. -/

namespace ClientWiring.EnvFile

structure Binding where
  name : String
  value : Option (List Char)
  deriving DecidableEq, Repr, Inhabited

def unifyLineEnds : List Char → List Char
  | [] => []
  | '\r' :: '\n' :: rest => '\n' :: unifyLineEnds rest
  | '\r' :: rest => '\n' :: unifyLineEnds rest
  | c :: rest => c :: unifyLineEnds rest

def isGap (c : Char) : Bool :=
  Text.isBlank c && c != '\n'

def skipGap (cs : List Char) : List Char :=
  cs.dropWhile isGap

def skipLine (cs : List Char) : List Char :=
  (cs.dropWhile (· != '\n')).drop 1

/-! ### Values -/

/-- The characters that a backslash stands in front of between single quotes, with what they
mean. -/
def singleQuoteEscapes : List (Char × Char) := [('\\', '\\'), ('\'', '\'')]

/-- The characters that a backslash stands in front of between double quotes, with what they
mean. -/
def doubleQuoteEscapes : List (Char × Char) := [
  ('\\', '\\'), ('\'', '\''), ('"', '"'), ('a', '\x07'), ('b', '\x08'), ('f', '\x0C'), ('n', '\n'),
  ('r', '\r'), ('t', '\t'), ('v', '\x0B')]

/-- A text with its escapes replaced; a backslash in front of any other character stands for
itself. -/
def unescape (escapes : List (Char × Char)) : List Char → List Char
  | [] => []
  | '\\' :: c :: rest =>
    match escapes.lookup c with
    | some meaning => meaning :: unescape escapes rest
    | none => '\\' :: unescape escapes (c :: rest)
  | c :: rest => c :: unescape escapes rest

/-- What stands up to the quote that closes a value, last character first, and what follows. A quote
behind a backslash closes only where no other does, and then the last of them; `last` is that
reading so far. -/
def closeQuote (quote : Char) (done : List Char) (last : Option (List Char × List Char)) :
    List Char → Option (List Char × List Char)
  | [] => last
  | '\\' :: c :: rest =>
    if c = quote then closeQuote quote (c :: '\\' :: done) (some ('\\' :: done, rest)) rest
    else closeQuote quote ('\\' :: done) last (c :: rest)
  | c :: rest => if c = quote then some (done, rest) else closeQuote quote (c :: done) last rest

/-- A value behind its opening quote, and what follows the closing one. -/
def quotedValue? (quote : Char) (escapes : List (Char × Char)) (cs : List Char) :
    Option (List Char × List Char) :=
  (closeQuote quote [] none cs).map fun found => (unescape escapes found.1.reverse, found.2)

/-- A line up to a comment, which a number sign behind a blank starts. -/
def beforeComment (afterBlank : Bool) : List Char → List Char
  | [] => []
  | c :: rest => if c = '#' && afterBlank then [] else c :: beforeComment (Text.isBlank c) rest

/-- The value at the front of a text, and what follows it. Without quotes it is the line up to a
comment, without the blanks at its end. -/
def value? (cs : List Char) : Option (List Char × List Char) :=
  match cs with
  | '\'' :: rest => quotedValue? '\'' singleQuoteEscapes rest
  | '"' :: rest => quotedValue? '"' doubleQuoteEscapes rest
  | cs =>
    some (Text.dropTrailing Text.isBlank (beforeComment false (cs.takeWhile (· != '\n'))),
      cs.dropWhile (· != '\n'))

/-! ### Lines -/

def skipExport (cs : List Char) : List Char :=
  let word := "export".toList
  match word.isPrefixOf cs, cs.drop word.length with
  | true, c :: rest => if isGap c then skipGap rest else cs
  | _, _ => cs

def isNameChar (c : Char) : Bool :=
  !Text.isBlank c && c != '=' && c != '#'

def name? (cs : List Char) : Option (Option (List Char) × List Char) :=
  match cs with
  | '#' :: _ => some (none, cs)
  | '\'' :: rest =>
    match rest.takeWhile (· != '\''), rest.dropWhile (· != '\'') with
    | c :: name, _ :: after => some (some (c :: name), after)
    | _, _ => none
  | cs =>
    match cs.takeWhile isNameChar with
    | [] => none
    | name => some (some name, cs.dropWhile isNameChar)

/-- A text behind the end of its line, in front of which only a comment may stand. -/
def lineEnd? (cs : List Char) : Option (List Char) :=
  let afterComment :=
    match skipGap cs with
    | '#' :: rest => rest.dropWhile (· != '\n')
    | rest => rest
  match afterComment with
  | [] => some []
  | '\n' :: rest => some rest
  | _ => none

/-- The binding at the front of a text, which a comment has not, and what follows it; or the text
from the place on that cannot be read. -/
def binding (cs : List Char) : Except (List Char) (Option Binding × List Char) :=
  let cs := skipExport cs
  match name? cs with
  | none => .error cs
  | some (name, rest) =>
    let value : Except (List Char) (Option (List Char) × List Char) :=
      match skipGap rest with
      | '=' :: rest =>
        match value? (skipGap rest) with
        | none => .error (skipGap rest)
        | some (value, rest) => .ok (some value, rest)
      | rest => .ok (none, rest)
    match value with
    | .error fault => .error fault
    | .ok (value, rest) =>
      match lineEnd? rest with
      | none => .error rest
      | some rest => .ok (name.map fun name => ⟨String.ofList name, value⟩, rest)

/-- The bindings of a text. A line that cannot be read is skipped from the fault on. A binding or a
skipped line takes a character at least; the reading stops where none is taken. -/
def bindings (cs : List Char) : List Binding :=
  match cs.dropWhile Text.isBlank with
  | [] => []
  | c :: line =>
    let (found, rest) :=
      match binding (c :: line) with
      | .ok (found, rest) => (found, rest)
      | .error fault => (none, skipLine fault)
    if rest.length < cs.length then found.toList ++ bindings rest else found.toList
termination_by cs.length
decreasing_by assumption

/-! ### References -/

/-- A reference to a variable: its name, the text that stands for it where it has no value, and how
many characters the reference takes behind its opening brace. -/
structure Reference where
  name : List Char
  default : List Char
  width : Nat
  deriving DecidableEq, Repr, Inhabited

def reference? (cs : List Char) : Option Reference :=
  let name := cs.takeWhile fun c => c != '\x7d' && c != ':'
  match cs.drop name.length with
  | '\x7d' :: _ => some ⟨name, [], name.length + 1⟩
  | ':' :: '-' :: rest =>
    let default := rest.takeWhile (· != '\x7d')
    if default.length < rest.length then
      some ⟨name, default, name.length + 2 + default.length + 1⟩
    else none
  | _ => none

def expand (meaning : Reference → List Char) (cs : List Char) : List Char :=
  match cs with
  | [] => []
  | '$' :: '\x7b' :: rest =>
    match reference? rest with
    | some reference => meaning reference ++ expand meaning (rest.drop reference.width)
    | none => '$' :: expand meaning ('\x7b' :: rest)
  | c :: rest => c :: expand meaning rest
termination_by cs.length
decreasing_by all_goals simp only [List.length_drop, List.length_cons]; omega

/-- What a reference means: the value that stands above, also if it is missing there; else the one
in the environment; else the text given for that case. -/
def meaning (environment : Dictionary String) (above : Dictionary (Option String))
    (reference : Reference) : List Char :=
  let name := String.ofList reference.name
  match above.get? name with
  | some value => (value.getD "").toList
  | none =>
    match environment.get? name with
    | some value => value.toList
    | none => reference.default

def resolve (environment : Dictionary String) (bindings : List Binding) :
    Dictionary (Option String) :=
  bindings.foldl
    (fun above binding =>
      above.insert binding.name
        (binding.value.map fun value => String.ofList (expand (meaning environment above) value)))
    []

/-! ### Files -/

def withoutMark : List Char → List Char
  | '\uFEFF' :: rest => rest
  | cs => cs

/-- The variables that a file in UTF-8 defines; a name without a value is there without one. -/
def read (environment : Dictionary String) (bytes : List UInt8) :
    Except Text.ByteFault (Dictionary (Option String)) :=
  (Text.readStrict "utf-8" (Text.utf8 false) 0 [] bytes).map fun text =>
    resolve environment (bindings (unifyLineEnds (withoutMark text.shown.toList)))

def values (defined : Dictionary (Option String)) : Dictionary String :=
  defined.filterMap fun entry => entry.2.map fun value => (entry.1, value)

end ClientWiring.EnvFile
