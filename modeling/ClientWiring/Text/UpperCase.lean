set_option autoImplicit false

/-! Upper-casing as far as it can produce a keyword. Keywords are spelled in ASCII, so only the
letters whose full upper-case form is ASCII can take part in one; every other character stays as
it is and never completes a keyword. -/

namespace ClientWiring.Text

/-- The non-ASCII letters whose upper-case form is ASCII, with that form. -/
def asciiUpperForms : List (Char × List Char) := [
  ('\u00DF', ['S', 'S']), ('\u0131', ['I']), ('\u017F', ['S']),
  ('\uFB00', ['F', 'F']), ('\uFB01', ['F', 'I']), ('\uFB02', ['F', 'L']),
  ('\uFB03', ['F', 'F', 'I']), ('\uFB04', ['F', 'F', 'L']),
  ('\uFB05', ['S', 'T']), ('\uFB06', ['S', 'T'])]

def upperChar (c : Char) : List Char :=
  if c.toNat < 0x80 then [c.toUpper]
  else (asciiUpperForms.lookup c).getD [c]

def upperKeyword (s : String) : String :=
  String.ofList (s.toList.flatMap upperChar)

def lowerAscii (s : String) : String :=
  s.map Char.toLower

end ClientWiring.Text
