import ClientWiring.Number.Shortest
import ClientWiring.Text.Quoted
import ClientWiring.Value.Limits
set_option autoImplicit false

/-! The two texts of a value. Its literal shows the kind of the value: texts are quoted, sequences
bracketed. Its plain text differs only for texts, which stand as they are, and for chosen words,
which stand without their value. A runtime gives these texts unless they are refused. -/

namespace ClientWiring.Value

def decimal (n : Int) : String :=
  String.ofList (if n < 0 then '-' :: digitsOf n else digitsOf n)

def wordLiteral (typeName name : String) : String :=
  "<" ++ typeName ++ "." ++ name ++ ": '" ++ name ++ "'>"

mutual

def literal : Value → String
  | null => "None"
  | bool b => if b then "True" else "False"
  | int n => decimal n
  | float x => x.text
  | text s => Text.quoted s
  | bytes b => Text.quotedBytes b
  | list items => "[" ++ ", ".intercalate (literals items) ++ "]"
  | tuple [item] => "(" ++ literal item ++ ",)"
  | tuple items => "(" ++ ", ".intercalate (literals items) ++ ")"
  | dict entries => "\x7b" ++ ", ".intercalate (entryLiterals entries) ++ "\x7d"
  | style s => wordLiteral QueryStyle.typeName s.name
  | encoder m => wordLiteral EncoderMode.typeName m.name

def literals : List Value → List String
  | [] => []
  | item :: rest => literal item :: literals rest

/-- The literals of dictionary entries: a quoted key, a colon and the literal of the value. -/
def entryLiterals : List (String × Value) → List String
  | [] => []
  | (key, item) :: rest => (Text.quoted key ++ ": " ++ literal item) :: entryLiterals rest

end

def plain : Value → String
  | text s => s
  | style s => QueryStyle.typeName ++ "." ++ s.name
  | encoder m => EncoderMode.typeName ++ "." ++ m.name
  | value => value.literal

variable [Runtime]

def givenLiteral (value : Value) : Except WriteError String :=
  WriteError.orText (value.refusal? .literal (Runtime.writeLevels .literal)) value.literal

/-- Why the plain text of a value is refused, if it is. Texts and chosen words are given as they
are. -/
def plainRefusal? (value : Value) : Option WriteError :=
  match value with
  | text _ => none
  | style _ => none
  | encoder _ => none
  | value => value.refusal? .literal (Runtime.writeLevels .literal)

def givenPlain (value : Value) : Except WriteError String :=
  WriteError.orText value.plainRefusal? value.plain

end ClientWiring.Value
