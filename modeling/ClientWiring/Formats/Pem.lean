import ClientWiring.Store.Pem
import ClientWiring.Text.Blank
set_option autoImplicit false

/-! Labelled blocks of base64 text, as they are found in a file. A search for a marker goes through
the bytes once: a byte that breaks off a partial match is not looked at again. -/

namespace ClientWiring.Pem

def text? (bytes : List UInt8) : Option String :=
  String.fromUTF8? ⟨bytes.toArray⟩

/-- The bytes before and after the next marker, of which `left` is still to come; `seen` holds the
bytes gone through, last first. -/
def seekFrom (marker left seen : List UInt8) : List UInt8 → Option (List UInt8 × List UInt8)
  | [] => if left = [] then some ((seen.drop marker.length).reverse, []) else none
  | b :: rest =>
    match left with
    | [] => some ((seen.drop marker.length).reverse, b :: rest)
    | m :: more => if b = m then seekFrom marker more (b :: seen) rest
      else seekFrom marker marker (b :: seen) rest

def seek (marker bytes : List UInt8) : Option (List UInt8 × List UInt8) :=
  seekFrom marker marker [] bytes

/-- A block as it was found, before its parts are checked. -/
structure Frame where
  opening : List UInt8
  body : List UInt8
  closing : List UInt8
  deriving DecidableEq, Repr, Inhabited

/-- Whether a byte is a space, a tab or a line end. -/
def isGap (b : UInt8) : Bool :=
  b == 0x20 || b == 0x09 || b == 0x0A || b == 0x0D

/-- The next block, and the bytes after it. -/
def nextFrame (bytes : List UInt8) : Option (Frame × List UInt8) := do
  let (_, bytes) ← seek (octets "-----BEGIN ") bytes
  let (opening, bytes) ← seek (octets "-----") bytes
  let (body, bytes) ← seek (octets "-----END ") (bytes.dropWhile isGap)
  let (closing, bytes) ← seek (octets "-----") bytes
  pure (⟨opening, body, closing⟩, bytes.dropWhile isGap)

/-- The blocks of a file, up to one that is not finished. -/
def frames (bytes : List UInt8) : List Frame :=
  match nextFrame bytes with
  | none => []
  | some (frame, rest) =>
    if rest.length < bytes.length then frame :: frames rest else [frame]
termination_by bytes.length

namespace Frame

/-- The header lines and the data of a body, parted by the first empty line. -/
def parts (frame : Frame) : List UInt8 × List UInt8 :=
  match seek (octets "\n\n") frame.body with
  | some parts => parts
  | none => (seek (octets "\r\n\r\n") frame.body).getD ([], frame.body)

def headersRead (headers : List UInt8) : Bool :=
  match text? headers with
  | none => false
  | some text =>
    let lines := (text.splitOn "\n").reverse
    let lines := if lines.head? = some "" then lines.drop 1 else lines
    lines.all fun line => line.toList.contains ':'

def block? (frame : Frame) : Option Block := do
  let label ← text? frame.opening
  let closing ← text? frame.closing
  let (headers, data) := frame.parts
  if label.isEmpty || label != closing || !headersRead headers then none
  else
    let digits ← text? data
    pure ⟨label, ← Text.decodeBase64? (digits.toList.filter fun c => !Text.isWhiteSpace c)⟩

end Frame

def readBlocks (bytes : List UInt8) : Option (List Block) :=
  (frames bytes).mapM Frame.block?

end ClientWiring.Pem
