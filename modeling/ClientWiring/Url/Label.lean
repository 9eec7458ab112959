import ClientWiring.Text.Quoted
import ClientWiring.Url.Address
import ClientWiring.Url.Idna
import ClientWiring.Url.Punycode
set_option autoImplicit false

/-! Host names in Latin letters. A label is written in ASCII as its Punycode behind a fixed mark.
Only small letters, digits and inner hyphens make a label; letters that other letters stand for, and
letters of other scripts, do not. -/

namespace ClientWiring.Url.Latin

def latinCapitals : List (Nat × Nat × Nat × Int) := [
  (0xC0, 0xD6, 1, 32), (0xD8, 0xDE, 1, 32), (0x100, 0x12E, 2, 1), (0x132, 0x136, 2, 1),
  (0x139, 0x147, 2, 1), (0x14A, 0x176, 2, 1), (0x178, 0x178, 1, -121), (0x179, 0x17D, 2, 1),
  (0x181, 0x181, 1, 210), (0x182, 0x184, 2, 1), (0x186, 0x186, 1, 206), (0x187, 0x187, 1, 1),
  (0x189, 0x18A, 1, 205), (0x18B, 0x18B, 1, 1), (0x18E, 0x18E, 1, 79), (0x18F, 0x18F, 1, 202),
  (0x190, 0x190, 1, 203), (0x191, 0x191, 1, 1), (0x193, 0x193, 1, 205), (0x194, 0x194, 1, 207),
  (0x196, 0x196, 1, 211), (0x197, 0x197, 1, 209), (0x198, 0x198, 1, 1), (0x19C, 0x19C, 1, 211),
  (0x19D, 0x19D, 1, 213), (0x19F, 0x19F, 1, 214), (0x1A0, 0x1A4, 2, 1), (0x1A6, 0x1A6, 1, 218),
  (0x1A7, 0x1A7, 1, 1), (0x1A9, 0x1A9, 1, 218), (0x1AC, 0x1AC, 1, 1), (0x1AE, 0x1AE, 1, 218),
  (0x1AF, 0x1AF, 1, 1), (0x1B1, 0x1B2, 1, 217), (0x1B3, 0x1B5, 2, 1), (0x1B7, 0x1B7, 1, 219),
  (0x1B8, 0x1B8, 1, 1), (0x1BC, 0x1BC, 1, 1), (0x1C4, 0x1C4, 1, 2), (0x1C5, 0x1C5, 1, 1),
  (0x1C7, 0x1C7, 1, 2), (0x1C8, 0x1C8, 1, 1), (0x1CA, 0x1CA, 1, 2), (0x1CB, 0x1DB, 2, 1),
  (0x1DE, 0x1EE, 2, 1), (0x1F1, 0x1F1, 1, 2), (0x1F2, 0x1F4, 2, 1), (0x1F6, 0x1F6, 1, -97),
  (0x1F7, 0x1F7, 1, -56), (0x1F8, 0x21E, 2, 1), (0x220, 0x220, 1, -130), (0x222, 0x232, 2, 1),
  (0x23A, 0x23A, 1, 10795), (0x23B, 0x23B, 1, 1), (0x23D, 0x23D, 1, -163),
  (0x23E, 0x23E, 1, 10792), (0x241, 0x241, 1, 1), (0x243, 0x243, 1, -195), (0x244, 0x244, 1, 69),
  (0x245, 0x245, 1, 71), (0x246, 0x24E, 2, 1), (0x1E00, 0x1E94, 2, 1), (0x1E9E, 0x1E9E, 1, -7615),
  (0x1EA0, 0x1EFE, 2, 1)]

def lowerLatin (c : Char) : List Char :=
  let n := c.toNat
  if n < 0x80 then [c.toLower]
  else if n = 0x130 then ['i', '\u0307']
  else
    match latinCapitals.find? fun (low, high, step, _) =>
        low ≤ n && n ≤ high && (n - low) % step == 0 with
    | some (_, _, _, distance) => [Char.ofNat (n + distance).toNat]
    | none => [c]

def latinRanges : List (Nat × Nat) := [(0xC0, 0xD6), (0xD8, 0xF6), (0xF8, 0x24F), (0x1E00, 0x1EFF)]

def replacedLetters : List Nat :=
  [0x133, 0x140, 0x149, 0x17F, 0x1C6, 0x1C9, 0x1CC, 0x1F3, 0x1E9A, 0x1E9B]

def inLabel (n : Nat) : Bool :=
  if n < 0x80 then
    (0x61 ≤ n && n ≤ 0x7A) || (0x30 ≤ n && n ≤ 0x39) || n == 0x2D
  else
    latinRanges.any (fun (low, high) => low ≤ n && n ≤ high) &&
      lowerLatin (Char.ofNat n) == [Char.ofNat n] && !replacedLetters.contains n

inductive LabelFault where
  | emptyName
  | emptyLabel
  | hyphensInside
  | hyphenOutside
  /-- A code point at a place, counted from one, of the quoted label. -/
  | notAllowed (code position : Nat) (label : String)
  | nothingEncoded
  | endsWithHyphen
  | notDecodable
  | labelTooLong
  | nameTooLong
  deriving DecidableEq, Repr

namespace LabelFault

def codeText (n : Nat) : String :=
  let digits := (Nat.toDigits 16 n).map Char.toUpper
  String.ofList (List.replicate (4 - digits.length) '0' ++ digits)

def message : LabelFault → String
  | emptyName => "Empty domain"
  | emptyLabel => "Empty Label"
  | hyphensInside => "Label has disallowed hyphens in 3rd and 4th position"
  | hyphenOutside => "Label must not start or end with a hyphen"
  | notAllowed code position label =>
    "Codepoint U+" ++ codeText code ++ " at position " ++ toString position ++ " of " ++ label ++
      " not allowed"
  | nothingEncoded => "Malformed A-label, no Punycode eligible content found"
  | endsWithHyphen => "A-label must not end with a hyphen"
  | notDecodable => "Invalid A-label"
  | labelTooLong => "Label too long"
  | nameTooLong => "Domain too long"

end LabelFault

/-- The first code point that cannot stand in a label, and its place, counted from `position`. A dot
above can follow the letter `i`, with which it makes no other letter. -/
def firstNotAllowed (position previous : Nat) : List Nat → Option (Nat × Nat)
  | [] => none
  | n :: rest =>
    if inLabel n || (n == 0x307 && previous == 0x69) then firstNotAllowed (position + 1) n rest
    else some (n, position)

def checkLabel (codes : List Nat) : Except LabelFault Unit :=
  if codes.isEmpty then .error .emptyLabel
  else if (codes.drop 2).take 2 == [0x2D, 0x2D] then .error .hyphensInside
  else if codes.head? == some 0x2D || codes.getLast? == some 0x2D then .error .hyphenOutside
  else
    match firstNotAllowed 1 0 codes with
    | some (code, position) =>
      .error (.notAllowed code position
        (Text.quoted (String.ofList (codes.map Char.ofNat))))
    | none => .ok ()

def labelText (label : List Char) : Except LabelFault (List Char) :=
  let label := label.map Char.toLower
  if punycodeMark.isPrefixOf label then
    let encoded := label.drop punycodeMark.length
    if encoded.isEmpty then .error .nothingEncoded
    else if encoded.getLast? == some '-' then .error .endsWithHyphen
    else
      match Punycode.decode? encoded with
      | none => .error .notDecodable
      | some codes => (checkLabel codes).map fun _ => codes.map Char.ofNat
  else (checkLabel (label.map Char.toNat)).map fun _ => label

def maxLabel : Nat := 63

def labelAscii (label : List Char) : Except LabelFault (List Char) :=
  let encoded : Except LabelFault (List Char) :=
    if label.all Text.isAscii then (labelText label).map fun _ => label
    else (checkLabel (label.map Char.toNat)).map fun _ => punycodeMark ++ Punycode.encode label
  match encoded with
  | .error e => .error e
  | .ok ascii => if maxLabel < ascii.length then .error .labelTooLong else .ok ascii

def labelStops : List Char := ['.', '\u3002', '\uFF0E', '\uFF61']

/-- The labels of a name, and whether a stop ends it. -/
def labelsOf (name : List Char) : Except LabelFault (List (List Char) × Bool) :=
  let labels := splitAtChar '.' (name.map fun c => if labelStops.contains c then '.' else c)
  if labels == [[]] then .error .emptyName
  else if labels.getLast? == some [] then .ok (labels.dropLast, true)
  else .ok (labels, false)

def joinLabels (labels : List (List Char)) (stopped : Bool) : List Char :=
  ['.'].intercalate (if stopped then labels ++ [[]] else labels)

def nameAscii (name : List Char) : Except LabelFault (List Char) := do
  let (labels, stopped) ← labelsOf name
  let encoded ← labels.mapM labelAscii
  let ascii := joinLabels encoded stopped
  if (if stopped then 254 else 253) < ascii.length then .error .nameTooLong else .ok ascii

def nameText (name : List Char) : Except LabelFault (List Char) := do
  let (labels, stopped) ← labelsOf name
  let texts ← labels.mapM labelText
  pure (joinLabels texts stopped)

def refusal (fault : LabelFault) : LabelError :=
  ⟨fault.message⟩

end ClientWiring.Url.Latin

namespace ClientWiring.Sample

/-- A library for host names in Latin letters. -/
scoped instance idna : Url.Idna where
  encode name := (Url.Latin.nameAscii (name.flatMap Url.Latin.lowerLatin)).mapError Url.Latin.refusal
  decode name := (Url.Latin.nameText name).mapError Url.Latin.refusal

end ClientWiring.Sample
