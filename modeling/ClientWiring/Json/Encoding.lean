import ClientWiring.Json.Reader
import ClientWiring.Text.Decoding
set_option autoImplicit false

/-! JSON text as bytes. The encoding is known by a mark at the front, else by the places of the zero
bytes among the first four. -/

namespace ClientWiring.Json

open Text

/-- How bytes are read: the name of their encoding, how to read them, how many bytes stand in front
of the text, and the position of its first byte as faults count it. -/
structure ByteForm where
  encoding : String
  front : Front
  skipped : Nat
  position : Nat

namespace ByteForm

def utf8 (skipped : Nat) : ByteForm :=
  ⟨"utf-8", Text.utf8 true, skipped, 0⟩

def utf16 (order : ByteOrder) (skipped : Nat) : ByteForm :=
  ⟨if order = .little then "utf-16-le" else "utf-16-be", Text.utf16 true order, skipped, skipped⟩

def utf32 (order : ByteOrder) (skipped : Nat) : ByteForm :=
  ⟨if order = .little then "utf-32-le" else "utf-32-be", Text.utf32 true order, skipped, skipped⟩

def unmarked : List UInt8 → ByteForm
  | [a, b] =>
    if a = 0 then utf16 .big 0 else if b = 0 then utf16 .little 0 else utf8 0
  | a :: b :: c :: d :: _ =>
    if a = 0 then (if b = 0 then utf32 .big 0 else utf16 .big 0)
    else if b = 0 then (if c = 0 ∧ d = 0 then utf32 .little 0 else utf16 .little 0)
    else utf8 0
  | _ => utf8 0

def ofBytes (bytes : List UInt8) : ByteForm :=
  if [0x00, 0x00, 0xFE, 0xFF].isPrefixOf bytes then utf32 .big 4
  else if [0xFF, 0xFE, 0x00, 0x00].isPrefixOf bytes then utf32 .little 4
  else if [0xFE, 0xFF].isPrefixOf bytes then utf16 .big 2
  else if [0xFF, 0xFE].isPrefixOf bytes then utf16 .little 2
  else if utf8Mark.isPrefixOf bytes then utf8 3
  else unmarked bytes

end ByteForm

inductive BytesError where
  | undecodable (fault : ByteFault)
  | unread (error : ReadError)
  deriving DecidableEq, Repr

/-- The text of bytes. A half of a pair passes on its own. -/
def textOfBytes (bytes : List UInt8) : Except ByteFault CodePoints :=
  let form := ByteForm.ofBytes bytes
  readStrict form.encoding form.front form.position [] (bytes.drop form.skipped)

def readBytes (limits : Limits) (bytes : List UInt8) : Except BytesError Node := do
  let text ← (textOfBytes bytes).mapError .undecodable
  (read limits text).mapError .unread

end ClientWiring.Json
