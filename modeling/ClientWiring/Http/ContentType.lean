import ClientWiring.Text.CodePoint
import ClientWiring.Thrown
set_option autoImplicit false

/-! The kind of a body, as the header field for it says. Which encoding a body is in, and how it is
read, is the matter of a library. -/

namespace ClientWiring

class BodyReader where
  /-- The text of a body that is not empty, with the header field for its kind. -/
  read : (field : Option String) → (body : List UInt8) → Except Thrown CodePoints

namespace ContentType

def saysJson (field : Option String) : Bool :=
  match field with
  | some text => (splitsAt "json".toList text.toList)
  | none => false
where
  splitsAt (word : List Char) : List Char → Bool
    | [] => word.isEmpty
    | c :: rest => word.isPrefixOf (c :: rest) || splitsAt word rest

end ContentType

end ClientWiring
