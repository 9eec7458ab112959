import ClientWiring.Text.Hex
set_option autoImplicit false

/-! Percent-encoding of the components of a URL. Each component keeps a set of ASCII characters of
its own and writes everything else as the UTF-8 bytes in hexadecimal; the percent sign is in every
set, so what is encoded already stays as it is. -/

namespace ClientWiring.Url

def isUnreserved (c : Char) : Bool :=
  Text.isAsciiLetter c || Text.isAsciiDigit c || c == '-' || c == '.' || c == '_' || c == '~'

def isVisible (c : Char) : Bool :=
  0x20 ≤ c.toNat && c.toNat < 0x7F

def keptInFragment (c : Char) : Bool :=
  isVisible c && !(" \"<>`".toList.contains c)

def keptInQuery (c : Char) : Bool :=
  isVisible c && !(" \"#<>".toList.contains c)

def keptInPath (c : Char) : Bool :=
  keptInQuery c && !("?`\x7b\x7d".toList.contains c)

def keptInUserinfo (c : Char) : Bool :=
  keptInPath c && !("/;=@[\\]^|".toList.contains c)

def keptInHost (c : Char) : Bool :=
  isUnreserved c || "!$&'()*+,;=\"`\x7b\x7d%|\\".toList.contains c

def percentByte (b : UInt8) : List Char :=
  ['%', Text.upperHexDigit (b.toNat / 16), Text.upperHexDigit (b.toNat % 16)]

def encodeKeeping (kept : Char → Bool) (cs : List Char) : List Char :=
  cs.flatMap fun c =>
    if kept c then [c] else (String.singleton c).toUTF8.toList.flatMap percentByte

theorem encodeKeeping_of_all (kept : Char → Bool) (cs : List Char)
    (every : ∀ c ∈ cs, kept c = true) : encodeKeeping kept cs = cs := by
  induction cs with
  | nil => rfl
  | cons c rest ih =>
      have here := every c List.mem_cons_self
      have others := ih fun d there => every d (List.mem_cons_of_mem c there)
      simp only [encodeKeeping, List.flatMap_cons, here, if_true] at *
      rw [others]
      rfl

/-- The bytes of a text in which each percent sign with two hexadecimal digits stands for a byte. -/
def decodedBytes : List Char → List UInt8
  | [] => []
  | '%' :: a :: b :: rest =>
    match Text.hexValue? a, Text.hexValue? b with
    | some high, some low => UInt8.ofNat (16 * high + low) :: decodedBytes rest
    | _, _ => 0x25 :: decodedBytes (a :: b :: rest)
  | c :: rest => (String.singleton c).toUTF8.toList ++ decodedBytes rest

/-- The text of a form field: a space becomes a plus sign, and only letters, digits and a few marks
stay as they are. -/
def formEncode (s : String) : List Char :=
  s.toList.flatMap fun c =>
    if c == ' ' then ['+']
    else if isUnreserved c then [c]
    else (String.singleton c).toUTF8.toList.flatMap percentByte

end ClientWiring.Url
