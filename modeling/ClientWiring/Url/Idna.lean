set_option autoImplicit false

/-! Host names outside ASCII. How they are written in ASCII, and read back, is the matter of a
library of its own. -/

namespace ClientWiring.Url

structure LabelError where
  message : String
  deriving DecidableEq, Repr

class Idna where
  /-- The ASCII form of a name, whose letters may be of any case. -/
  encode : List Char → Except LabelError (List Char)
  /-- The text of a name that is in ASCII form. -/
  decode : List Char → Except LabelError (List Char)

def punycodeMark : List Char := "xn--".toList

end ClientWiring.Url
