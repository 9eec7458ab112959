import ClientWiring.Text.Hex
set_option autoImplicit false

/-! Network addresses as hosts. Four runs of digits with any one character between them look like an
IPv4 address and have to be one; so does everything in brackets, as an IPv6 address. -/

namespace ClientWiring.Url

def splitAtChar (separator : Char) : List Char → List (List Char)
  | [] => [[]]
  | c :: rest =>
    if c = separator then [] :: splitAtChar separator rest
    else
      match splitAtChar separator rest with
      | part :: parts => (c :: part) :: parts
      | [] => [[c]]

/-- Whether a text is runs of digits, `separators + 1` of them, with one character between two. -/
def isDigitRuns (separators : Nat) (seenDigit : Bool) (cs : List Char) : Bool :=
  match separators, cs with
  | 0, [] => seenDigit
  | _ + 1, [] => false
  | 0, c :: rest => Text.isAsciiDigit c && isDigitRuns 0 true rest
  | separators + 1, c :: rest =>
    (Text.isAsciiDigit c && isDigitRuns (separators + 1) true rest) ||
      (seenDigit && isDigitRuns separators false rest)

def looksLikeIPv4 (cs : List Char) : Bool :=
  isDigitRuns 3 false cs

def decimalValue (cs : List Char) : Nat :=
  cs.foldl (fun n c => 10 * n + (c.toNat - 0x30)) 0

/-- Whether a text is a number from 0 to 255 in at most three digits, without leading zeros. -/
def isOctet (cs : List Char) : Bool :=
  !cs.isEmpty && cs.all Text.isAsciiDigit && cs.length ≤ 3 &&
    (cs == ['0'] || cs.head? != some '0') && decimalValue cs ≤ 255

def isIPv4 (cs : List Char) : Bool :=
  let parts := splitAtChar '.' cs
  parts.length == 4 && parts.all isOctet

/-- Whether a text is a group of an IPv6 address: one to four hexadecimal digits. -/
def isGroup (cs : List Char) : Bool :=
  !cs.isEmpty && cs.length ≤ 4 && cs.all fun c => (Text.hexValue? c).isSome

/-- The groups of an IPv6 address, with an IPv4 address at the end counted as two groups. -/
def expandIPv4Tail (parts : List (List Char)) : Option (List (List Char)) :=
  match parts.getLast? with
  | some last =>
    if last.contains '.' then
      if isIPv4 last then some (parts.dropLast ++ [['0'], ['0']]) else none
    else some parts
  | none => some parts

/-- Whether groups on either side of the double colon are well formed and leave at least one group
out. An empty group at the outer end stands for nothing, if nothing else is on its side. -/
def isShortened (before after : List (List Char)) : Bool :=
  let side (groups : List (List Char)) (outer : Option (List Char)) : Option Nat :=
    if outer == some [] then (if groups.length == 1 then some 0 else none)
    else if groups.all isGroup then some groups.length else none
  match side before before.head?, side after after.getLast? with
  | some high, some low => high + low < 8
  | _, _ => false

/-- Whether groups make an IPv6 address; an empty inner group is the double colon. -/
def areGroups (parts : List (List Char)) : Bool :=
  let inner := parts.dropLast.drop 1
  match (inner.filter List.isEmpty).length with
  | 0 => parts.length == 8 && parts.all isGroup
  | 1 =>
    let count := (inner.takeWhile fun part => !part.isEmpty).length + 1
    isShortened (parts.take count) (parts.drop (count + 1))
  | _ => false

def isIPv6 (cs : List Char) : Bool :=
  let address := cs.takeWhile (· != '%')
  let zoneOk :=
    match cs.dropWhile (· != '%') with
    | [] => true
    | _ :: zone => !zone.isEmpty && !zone.contains '%'
  let parts := splitAtChar ':' address
  !cs.contains '/' && zoneOk && 3 ≤ parts.length &&
    match expandIPv4Tail parts with
    | some groups => groups.length ≤ 9 && areGroups groups
    | none => false

end ClientWiring.Url
