import ClientWiring.Text.Decoding
import ClientWiring.Text.UpperCase
set_option autoImplicit false

/-! The encodings that a message can name. A name is taken in any case, and every run of characters
that are no letters, digits or points counts as one separator. Each character that cannot be read
becomes the replacement character. -/

namespace ClientWiring.Text

/-- The encodings. An encoding without its own byte order takes it from a mark at the front. -/
inductive Charset where
  | utf8
  /-- UTF-8 whose mark at the front, if there is one, is no part of the text. -/
  | utf8Marked
  | ascii
  | latin1
  | latin9
  | windows1252
  | utf16 (order : Option ByteOrder)
  | utf32 (order : Option ByteOrder)
  deriving DecidableEq, Repr

namespace Charset

def words (cs : List Char) : List (List Char) :=
  (cs.splitBy fun a b => isWord a == isWord b).filter fun word => word.all isWord
where
  isWord (c : Char) : Bool := isAsciiLetter c || isAsciiDigit c || c == '.'

def plainName (name : String) : String :=
  "_".intercalate ((words (lowerAscii name).toList).map String.ofList)

def names : List (Charset × List String) := [
  (.utf8, ["utf_8", "u8", "utf", "utf8", "utf8_ucs2", "utf8_ucs4", "cp65001"]),
  (.utf8Marked, ["utf_8_sig"]),
  (.ascii, ["ascii", "646", "ansi_x3.4_1968", "ansi_x3_4_1968", "ansi_x3.4_1986", "cp367",
    "csascii", "ibm367", "iso646_us", "iso_646.irv_1991", "iso_ir_6", "us", "us_ascii"]),
  (.latin1, ["latin_1", "8859", "cp819", "csisolatin1", "ibm819", "iso8859", "iso8859_1",
    "iso_8859_1", "iso_8859_1_1987", "iso_ir_100", "l1", "latin", "latin1"]),
  (.latin9, ["iso8859_15", "csisolatin9", "iso_8859_15", "latin9", "l9"]),
  (.windows1252, ["cp1252", "1252", "windows_1252"]),
  (.utf16 none, ["utf_16", "u16", "utf16"]),
  (.utf16 (some .little), ["utf_16_le", "unicodelittleunmarked", "utf_16le"]),
  (.utf16 (some .big), ["utf_16_be", "unicodebigunmarked", "utf_16be"]),
  (.utf32 none, ["utf_32", "u32", "utf32"]),
  (.utf32 (some .little), ["utf_32_le", "utf_32le"]),
  (.utf32 (some .big), ["utf_32_be", "utf_32be"])]

def ofName? (name : String) : Option Charset :=
  let plain := plainName name
  (names.find? fun entry => entry.2.contains plain).map Prod.fst

/-- The characters of the bytes from 128 to 159 in the encoding of 1252 characters; some have
none. -/
def windowsMarks : List (Option Char) := [
  some '\u20AC', none, some '\u201A', some '\u0192', some '\u201E', some '\u2026', some '\u2020',
  some '\u2021', some '\u02C6', some '\u2030', some '\u0160', some '\u2039', some '\u0152', none,
  some '\u017D', none, none, some '\u2018', some '\u2019', some '\u201C', some '\u201D',
  some '\u2022', some '\u2013', some '\u2014', some '\u02DC', some '\u2122', some '\u0161',
  some '\u203A', some '\u0153', none, some '\u017E', some '\u0178']

def latin9Changes : List (UInt8 × Char) := [
  (0xA4, '\u20AC'), (0xA6, '\u0160'), (0xA8, '\u0161'), (0xB4, '\u017D'), (0xB8, '\u017E'),
  (0xBC, '\u0152'), (0xBD, '\u0153'), (0xBE, '\u0178')]

def latin9Front : Front := fun b rest =>
  match latin9Changes.lookup b with
  | some c => .char c 1
  | none => Text.latin1 b rest

def windows1252Front : Front := fun b rest =>
  if 0x80 ≤ b ∧ b < 0xA0 then
    match (windowsMarks[b.toNat - 0x80]?).join with
    | some c => .char c 1
    | none => .fault 1 "character maps to <undefined>"
  else Text.latin1 b rest

structure NoMark where
  family : String
  deriving DecidableEq, Repr

def NoMark.message (error : NoMark) : String :=
  error.family ++ " stream does not start with BOM"

/-- The text of bytes that start with a mark of their order. Fewer bytes than a mark has are one
fault. -/
def decodeMarked (family : String) (width : Nat) (front : ByteOrder → Front) (bytes : List UInt8) :
    Except NoMark CodePoints :=
  let mark := bytes.take width
  if bytes.isEmpty then .ok []
  else if bytes.length < width then .ok [.char CodePoint.replacement]
  else if ByteOrder.little.value mark = 0xFEFF then
    .ok (readReplacing (front .little) (bytes.drop width))
  else if ByteOrder.big.value mark = 0xFEFF then
    .ok (readReplacing (front .big) (bytes.drop width))
  else .error ⟨family⟩

/-- The text of bytes that may start with the mark of UTF-8. The beginning of a mark alone is no
text. -/
def decodeAfterMark (bytes : List UInt8) : CodePoints :=
  if bytes.length < 3 && bytes.isPrefixOf utf8Mark then []
  else
    readReplacing (Text.utf8 false) (if utf8Mark.isPrefixOf bytes then bytes.drop 3 else bytes)

def decode (charset : Charset) (bytes : List UInt8) : Except NoMark CodePoints :=
  match charset with
  | utf8 => .ok (readReplacing (Text.utf8 false) bytes)
  | utf8Marked => .ok (decodeAfterMark bytes)
  | ascii => .ok (readReplacing Text.ascii bytes)
  | latin1 => .ok (readReplacing Text.latin1 bytes)
  | latin9 => .ok (readReplacing latin9Front bytes)
  | windows1252 => .ok (readReplacing windows1252Front bytes)
  | utf16 (some order) => .ok (readReplacing (Text.utf16 false order) bytes)
  | utf32 (some order) => .ok (readReplacing (Text.utf32 false order) bytes)
  | utf16 none => decodeMarked "UTF-16" 2 (Text.utf16 false) bytes
  | utf32 none => decodeMarked "UTF-32" 4 (Text.utf32 false) bytes

end Charset

end ClientWiring.Text
