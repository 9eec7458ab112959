import ClientWiring.Text.Base64
set_option autoImplicit false

/-! Labelled blocks of base64 text, as they are written. -/

namespace ClientWiring.Pem

def octets (text : String) : List UInt8 :=
  text.toUTF8.toList

structure Block where
  label : String
  content : List UInt8
  deriving DecidableEq, Repr, Inhabited

/-- A text broken into lines of 64 characters; the first one has room for `room` more. -/
def wrapFrom : (room : Nat) → List Char → List Char
  | _, [] => []
  | 0, c :: rest => '\n' :: c :: wrapFrom 63 rest
  | room + 1, c :: rest => c :: wrapFrom room rest

def Block.render (block : Block) : String :=
  let digits := String.ofList (wrapFrom 64 (Text.encodeBase64 block.content))
  "-----BEGIN " ++ block.label ++ "-----\n" ++ digits ++ "\n-----END " ++ block.label ++ "-----\n"

end ClientWiring.Pem
