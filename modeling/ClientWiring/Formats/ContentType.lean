import ClientWiring.Http.ContentType
import ClientWiring.Text.Charset
set_option autoImplicit false

/-! A reader of bodies that knows a few encodings. The header field for the kind of a body may name
one; where it names none, or none that is known, the body is in UTF-8. -/

namespace ClientWiring.ContentType

/-- The parts of a field between semicolons. A semicolon between quotes is part of a value; `quoted`
says that a quote is open and `part` holds the characters of the part so far, last first. -/
def partsFrom (quoted : Bool) (part : List Char) : List Char → List (List Char)
  | [] => [part.reverse]
  | c :: rest =>
    if c = ';' ∧ !quoted then part.reverse :: partsFrom false [] rest
    else
      let escaped := part.head? = some '\\'
      partsFrom (if c = '"' ∧ !escaped then !quoted else quoted) (c :: part) rest

def stripped (cs : List Char) : List Char :=
  Text.stripChars Text.isBlank cs

def unquoted (value : List Char) : List Char :=
  let inner := (value.drop 1).dropLast
  if 1 < value.length ∧ value.head? = some '"' ∧ value.getLast? = some '"' then unescaped inner
  else if 1 < value.length ∧ value.head? = some '<' ∧ value.getLast? = some '>' then inner
  else value
where
  unescaped : List Char → List Char
    | '\\' :: c :: rest =>
      if c = '\\' ∨ c = '"' then c :: unescaped rest else '\\' :: unescaped (c :: rest)
    | c :: rest => c :: unescaped rest
    | [] => []

def nameAndValue (part : List Char) : String × List Char :=
  let name := part.takeWhile (· != '=')
  let value := (part.dropWhile (· != '=')).drop 1
  (Text.lowerAscii (String.ofList (stripped name)), unquoted (stripped value))

def charsetName? (field : String) : Option String :=
  let parts := (partsFrom false [] field.toList).map nameAndValue
  match parts.lookup "charset" with
  | some name => if name.all Text.isAscii then some (String.ofList name) else none
  | none => none

/-- The encoding of a body: the one that the field names, if it is known, else UTF-8. -/
def charset (field : Option String) : Text.Charset :=
  ((field.bind charsetName?).bind Text.Charset.ofName?).getD .utf8

end ClientWiring.ContentType

namespace ClientWiring.Sample

scoped instance bodies : BodyReader where
  read field body :=
    ((ContentType.charset field).decode body).mapError fun e => ⟨"UnicodeError", e.message⟩

end ClientWiring.Sample
