import ClientWiring.Text.CodePoint
import ClientWiring.Text.Hex
set_option autoImplicit false

/-! From bytes to text in the Unicode encodings and a few of one byte per character. A text is read
character by character; a fault covers the bytes that cannot be read together. `readStrict` stops at
the first fault, `readReplacing` writes the replacement character for each. -/

namespace ClientWiring.Text

/-- What stands at the front of bytes: a code point, or bytes that are none, with their number. -/
inductive Piece where
  | point (p : CodePoint) (width : Nat)
  | fault (width : Nat) (reason : String)
  deriving DecidableEq, Repr

abbrev Front := UInt8 → List UInt8 → Piece

def Piece.char (c : Char) (width : Nat) : Piece :=
  .point (.char c) width

/-! ### Encodings

The Unicode encodings take an argument that says whether half a pair passes on its own. -/

/-- The rest of a character of which `width` bytes were read, with the bounds of the next byte. -/
def utf8Tail (low high : UInt8) (value width : Nat) : (need : Nat) → List UInt8 → Piece
  | 0, _ => .point (.ofCode value) width
  | _ + 1, [] => .fault width "unexpected end of data"
  | need + 1, b :: rest =>
    if low ≤ b ∧ b ≤ high then
      utf8Tail 0x80 0xBF (value * 64 + b.toNat % 64) (width + 1) need rest
    else .fault width "invalid continuation byte"

def strictUtf8 : Front := fun b rest =>
  if b < 0x80 then .char (Char.ofNat b.toNat) 1
  else if b < 0xC2 ∨ 0xF4 < b then .fault 1 "invalid start byte"
  else if b < 0xE0 then utf8Tail 0x80 0xBF (b.toNat % 32) 1 1 rest
  else if b < 0xF0 then
    let low : UInt8 := if b = 0xE0 then 0xA0 else 0x80
    let high : UInt8 := if b = 0xED then 0x9F else 0xBF
    utf8Tail low high (b.toNat % 16) 1 2 rest
  else
    let low : UInt8 := if b = 0xF0 then 0x90 else 0x80
    let high : UInt8 := if b = 0xF4 then 0x8F else 0xBF
    utf8Tail low high (b.toNat % 8) 1 3 rest

/-- A half of a pair in UTF-8, which has three bytes. -/
def utf8Half? : UInt8 → List UInt8 → Option Piece
  | 0xED, b :: c :: _ =>
    if 0xA0 ≤ b ∧ b ≤ 0xBF ∧ 0x80 ≤ c ∧ c ≤ 0xBF then
      some (.point (.ofCode (0xD000 + b.toNat % 64 * 64 + c.toNat % 64)) 3)
    else none
  | _, _ => none

def utf8 (halves : Bool) : Front := fun b rest =>
  (if halves then utf8Half? b rest else none).getD (strictUtf8 b rest)

inductive ByteOrder where
  | little
  | big
  deriving DecidableEq, Repr

namespace ByteOrder

def value : ByteOrder → List UInt8 → Nat
  | little, bytes => bytes.foldr (fun b n => n * 256 + b.toNat) 0
  | big, bytes => bytes.foldl (fun n b => n * 256 + b.toNat) 0

end ByteOrder

def utf16 (halves : Bool) (order : ByteOrder) : Front := fun a rest =>
  match rest with
  | [] => .fault 1 "truncated data"
  | b :: rest =>
    let unit := order.value [a, b]
    let half (width : Nat) (reason : String) : Piece :=
      if halves then .point (.ofCode unit) 2 else .fault width reason
    if unit < 0xD800 ∨ 0xDFFF < unit then .char (Char.ofNat unit) 2
    else if 0xDC00 ≤ unit then half 2 "illegal encoding"
    else
      match rest with
      | c :: d :: _ =>
        let next := order.value [c, d]
        if 0xDC00 ≤ next ∧ next ≤ 0xDFFF then
          .char (Char.ofNat (0x10000 + (unit - 0xD800) * 0x400 + (next - 0xDC00))) 4
        else half 2 "illegal UTF-16 surrogate"
      | rest => half (2 + rest.length) "unexpected end of data"

def utf32 (halves : Bool) (order : ByteOrder) : Front := fun a rest =>
  match rest with
  | b :: c :: d :: _ =>
    let unit := order.value [a, b, c, d]
    if 0x10FFFF < unit then .fault 4 "code point not in range(0x110000)"
    else if 0xD800 ≤ unit ∧ unit ≤ 0xDFFF ∧ !halves then
      .fault 4 "code point in surrogate code point range(0xd800, 0xe000)"
    else .point (.ofCode unit) 4
  | rest => .fault (1 + rest.length) "truncated data"

def ascii : Front := fun b _ =>
  if b < 0x80 then .char (Char.ofNat b.toNat) 1 else .fault 1 "ordinal not in range(128)"

def latin1 : Front := fun b _ =>
  .char (Char.ofNat b.toNat) 1

/-- The mark at the front of a text in UTF-8. -/
def utf8Mark : List UInt8 := [0xEF, 0xBB, 0xBF]

/-! ### Whole texts -/

def readReplacing (front : Front) (bytes : List UInt8) : CodePoints :=
  match bytes with
  | [] => []
  | b :: rest =>
    match front b rest with
    | .point p width => p :: readReplacing front (rest.drop (width - 1))
    | .fault width _ => .char CodePoint.replacement :: readReplacing front (rest.drop (width - 1))
termination_by bytes.length
decreasing_by all_goals simp only [List.length_drop, List.length_cons]; omega

structure ByteFault where
  encoding : String
  bytes : List UInt8
  position : Nat
  reason : String
  deriving DecidableEq, Repr

def byteText (b : UInt8) : String :=
  "0x" ++ String.ofList (hexDigits 2 b.toNat)

def ByteFault.message (fault : ByteFault) : String :=
  "'" ++ fault.encoding ++ "' codec can't decode " ++
    (match fault.bytes with
    | [b] => "byte " ++ byteText b ++ " in position " ++ toString fault.position
    | bytes =>
      "bytes in position " ++ toString fault.position ++ "-" ++
        toString (fault.position + bytes.length - 1)) ++
    ": " ++ fault.reason

def readStrict (encoding : String) (front : Front) (position : Nat) (done : CodePoints)
    (bytes : List UInt8) : Except ByteFault CodePoints :=
  match bytes with
  | [] => .ok done.reverse
  | b :: rest =>
    match front b rest with
    | .point p width =>
      readStrict encoding front (position + width) (p :: done) (rest.drop (width - 1))
    | .fault width reason => .error ⟨encoding, (b :: rest).take width, position, reason⟩
termination_by bytes.length
decreasing_by simp only [List.length_drop, List.length_cons]; omega

end ClientWiring.Text
