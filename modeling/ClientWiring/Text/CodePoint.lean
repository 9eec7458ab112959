import ClientWiring.Text.Blank
set_option autoImplicit false

/-! Texts from outside. They may hold one half of a pair on its own, which no character is. -/

namespace ClientWiring

/-- A character, or a half of a pair that stands alone, with its place among the halves. -/
inductive CodePoint where
  | char (c : Char)
  | half (place : Fin 0x800)
  deriving DecidableEq, Repr

abbrev CodePoints := List CodePoint

namespace CodePoint

def ofCode (code : Nat) : CodePoint :=
  if isHalf : 0xD800 ≤ code ∧ code < 0xE000 then half ⟨code - 0xD800, by omega⟩
  else char (Char.ofNat code)

def replacement : Char := '\uFFFD'

def shown : CodePoint → Char
  | char c => c
  | half _ => replacement

def isBlank : CodePoint → Bool
  | char c => Text.isBlank c
  | half _ => false

end CodePoint

namespace CodePoints

def ofChars (cs : List Char) : CodePoints :=
  cs.map .char

def ofString (s : String) : CodePoints :=
  ofChars s.toList

def shown (points : CodePoints) : String :=
  String.ofList (points.map CodePoint.shown)

def leading : CodePoints → List Char × CodePoints
  | .char c :: rest => (c :: (leading rest).1, (leading rest).2)
  | rest => ([], rest)

def trim (points : CodePoints) : CodePoints :=
  Text.stripChars CodePoint.isBlank points

theorem ofChars_append (front back : List Char) :
    ofChars (front ++ back) = ofChars front ++ ofChars back :=
  List.map_append

theorem length_ofChars (cs : List Char) : (ofChars cs).length = cs.length :=
  List.length_map _

theorem ofChars_leading (points : CodePoints) :
    ofChars points.leading.1 ++ points.leading.2 = points := by
  induction points with
  | nil => rfl
  | cons point rest ih =>
      cases point with
      | char c => exact congrArg (CodePoint.char c :: ·) ih
      | half place => rfl

end CodePoints

end ClientWiring
