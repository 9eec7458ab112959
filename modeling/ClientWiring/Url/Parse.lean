import ClientWiring.Number.Reading
import ClientWiring.Url.Address
import ClientWiring.Url.Basic
set_option autoImplicit false

/-! From text to URL. A text is split at its marks, which always succeeds, and then every part is
brought into its normal form, which can fail. Changing one part of a URL goes through the same
normal form again. -/

namespace ClientWiring.Url

variable [Idna]

structure Pieces where
  scheme : List Char
  userinfo : List Char
  host : List Char
  port : Option (List Char)
  path : List Char
  query : Option (List Char)
  fragment : Option (List Char)

def maxLength : Nat := 65536

def firstControl (cs : List Char) : Option (Char × Nat) :=
  match cs.dropWhile fun c => !Text.isAsciiControl c with
  | [] => none
  | c :: _ => some (c, (cs.takeWhile fun c => !Text.isAsciiControl c).length)

def inScheme (c : Char) : Bool :=
  Text.isAsciiLetter c || Text.isAsciiDigit c || c == '+' || c == '.' || c == '-'

def splitScheme (cs : List Char) : List Char × List Char :=
  match cs with
  | ':' :: rest => ([], rest)
  | c :: _ =>
    if Text.isAsciiLetter c then
      match cs.dropWhile inScheme with
      | ':' :: rest => (cs.takeWhile inScheme, rest)
      | _ => ([], cs)
    else ([], cs)
  | [] => ([], [])

def splitBefore (marks : List Char) (cs : List Char) : List Char × List Char :=
  (cs.takeWhile fun c => !marks.contains c, cs.dropWhile fun c => !marks.contains c)

def splitLast? (mark : Char) (cs : List Char) : Option (List Char × List Char) :=
  match cs.reverse.dropWhile (· != mark) with
  | [] => none
  | _ :: before => some (before.reverse, (cs.reverse.takeWhile (· != mark)).reverse)

/-- The host at the start of a text and what follows: everything up to the last closing bracket, if
the text starts with an opening one, else everything before the first colon. -/
def splitHost (cs : List Char) : List Char × List Char :=
  let plain := splitBefore [':'] cs
  match cs with
  | '[' :: _ =>
    match splitLast? ']' cs with
    | some (before, after) => (before ++ [']'], after)
    | none => plain
  | _ => plain

def splitAuthority (cs : List Char) : List Char × List Char × List Char :=
  let (userinfo, rest) := (splitLast? '@' cs).getD ([], cs)
  let (host, rest) := splitHost rest
  match rest with
  | ':' :: port => (userinfo, host, port)
  | port => (userinfo, host, port)

def Pieces.ofParts (scheme authority path : List Char) (query fragment : Option (List Char)) :
    Pieces :=
  let (userinfo, host, port) := splitAuthority authority
  ⟨scheme, userinfo, host, some port, path, query, fragment⟩

def splitSlashed (cs : List Char) : List Char × List Char :=
  match cs with
  | '/' :: '/' :: rest => splitBefore ['/', '?', '#'] rest
  | rest => ([], rest)

def splitQuery (cs : List Char) : Option (List Char) × List Char :=
  match cs with
  | '?' :: rest => (some (splitBefore ['#'] rest).1, (splitBefore ['#'] rest).2)
  | rest => (none, rest)

def fragment? (cs : List Char) : Option (List Char) :=
  match cs with
  | '#' :: rest => some rest
  | _ => none

def Pieces.ofText (cs : List Char) : Pieces :=
  let (scheme, rest) := splitScheme cs
  let (authority, rest) := splitSlashed rest
  let (path, rest) := splitBefore ['?', '#'] rest
  let (query, rest) := splitQuery rest
  Pieces.ofParts scheme authority path query (fragment? rest)

def normalHost (host : List Char) : Except UrlError String :=
  if host.isEmpty then .ok ""
  else if looksLikeIPv4 host then
    if isIPv4 host then .ok (String.ofList host) else .error (.invalidIPv4 (String.ofList host))
  else if host.head? == some '[' && host.length != 1 && host.getLast? == some ']' then
    let address := (host.drop 1).dropLast
    if isIPv6 address then .ok (String.ofList address)
    else .error (.invalidIPv6 (String.ofList host))
  else if host.all Text.isAscii then
    .ok (String.ofList (encodeKeeping keptInHost (host.map Char.toLower)))
  else
    match Idna.encode host with
    | .ok ascii => .ok (String.ofList ascii)
    | .error _ => .error (.invalidName (String.ofList host))

def schemePorts : List (String × Int) :=
  [("ftp", 21), ("http", 80), ("https", 443), ("ws", 80), ("wss", 443)]

/-- The normal form of a port: none where it is empty, or the one of the scheme as it is spelled. -/
def normalPort (port : Option (List Char)) (scheme : List Char) :
    Except UrlError (Option Int) :=
  match port with
  | none | some [] => .ok none
  | some text =>
    match Number.readWhole text with
    | .error _ => .error (.invalidPort (String.ofList text))
    | .ok n =>
      if schemePorts.lookup (String.ofList scheme) == some n then .ok none else .ok (some n)

def startsWith (start path : List Char) : Bool :=
  start.isPrefixOf path

def checkPath (path : List Char) (hasScheme hasAuthority : Bool) : Except UrlError Unit :=
  if hasAuthority then
    if path.isEmpty || startsWith ['/'] path then .ok () else .error .pathWithoutSlash
  else if hasScheme then .ok ()
  else if startsWith ['/', '/'] path then .error .pathWithTwoSlashes
  else if startsWith [':'] path then .error .pathWithColon
  else .ok ()

/-- The segments of a path without the single and double points; `done` holds those passed, the last
one first. A double point takes the segment before it away, but never the empty one in front of the
first slash. -/
def removeDots (done : List (List Char)) : List (List Char) → List (List Char)
  | [] => done.reverse
  | segment :: rest =>
    if segment = ['.'] then removeDots done rest
    else if segment = ['.', '.'] then
      if done == [[]] then removeDots done rest else removeDots done.tail rest
    else removeDots (segment :: done) rest

def normalPath (path : List Char) : List Char :=
  let segments := splitAtChar '/' path
  if segments.contains ['.'] || segments.contains ['.', '.'] then
    ['/'].intercalate (removeDots [] segments)
  else path

def ofPieces (pieces : Pieces) : Except UrlError Url := do
  let scheme := pieces.scheme.map Char.toLower
  let userinfo := encodeKeeping keptInUserinfo pieces.userinfo
  let host ← normalHost pieces.host
  let port ← normalPort pieces.port pieces.scheme
  let hasScheme := !scheme.isEmpty
  let hasAuthority := !userinfo.isEmpty || !host.isEmpty || port.isSome
  checkPath pieces.path hasScheme hasAuthority
  let path := if hasScheme || hasAuthority then normalPath pieces.path else pieces.path
  pure {
    scheme := String.ofList scheme
    userinfo := String.ofList userinfo
    host := host
    port := port
    path := String.ofList (encodeKeeping keptInPath path)
    query := pieces.query.map fun query => String.ofList (encodeKeeping keptInQuery query)
    fragment :=
      pieces.fragment.map fun fragment => String.ofList (encodeKeeping keptInFragment fragment) }

def parse (text : String) : Except UrlError Url :=
  let cs := text.toList
  if maxLength < cs.length then .error .tooLong
  else
    match firstControl cs with
    | some (c, position) => .error (.controlCharacter c position none)
    | none => ofPieces (Pieces.ofText cs)

/-! ### Changing parts -/

def checkPart (name : String) (allowed : List Char → Bool) (part : List Char) :
    Except UrlError Unit :=
  if maxLength < part.length then .error (.partTooLong name)
  else
    match firstControl part with
    | some (c, position) => .error (.controlCharacter c position (some name))
    | none => if allowed part then .ok () else .error (.invalidPart name)

def isScheme (cs : List Char) : Bool :=
  match cs with
  | [] => true
  | c :: rest => Text.isAsciiLetter c && rest.all inScheme

/-- Whether a text can be a host: brackets around anything, or no colon. -/
def isHostPart (cs : List Char) : Bool :=
  (cs.head? == some '[' && 2 ≤ cs.length && cs.getLast? == some ']') || !cs.contains ':'

def freeOf (marks : List Char) (cs : List Char) : Bool :=
  cs.all fun c => !marks.contains c

structure Parts where
  scheme : List Char
  authority : List Char
  path : List Char
  query : Option (List Char)
  fragment : Option (List Char)
  host : Option (List Char)

def parts (url : Url) : Parts where
  scheme := url.scheme.toList
  authority := url.authority.toList
  path := url.path.toList
  query := url.query.map String.toList
  fragment := url.fragment.map String.toList
  host := none

def Parts.pieces (parts : Parts) : Pieces :=
  let pieces :=
    Pieces.ofParts parts.scheme parts.authority parts.path parts.query parts.fragment
  { pieces with host := parts.host.getD pieces.host }

def ofParts (parts : Parts) : Except UrlError Url := do
  checkPart "scheme" isScheme parts.scheme
  checkPart "authority" (freeOf ['/', '?', '#']) parts.authority
  checkPart "path" (freeOf ['?', '#']) parts.path
  parts.query.forM (checkPart "query" (freeOf ['#']))
  parts.fragment.forM (checkPart "fragment" fun _ => true)
  parts.host.forM (checkPart "host" isHostPart)
  ofPieces parts.pieces

def withRawPath (url : Url) (rawPath : String) : Except UrlError Url :=
  let (path, rest) := splitBefore ['?'] rawPath.toList
  ofParts { url.parts with path := path, query := rest.tail? }

def withQuery (url : Url) (query : Option String) : Except UrlError Url :=
  ofParts { url.parts with query := query.map String.toList }

def withFragment (url : Url) (fragment : String) : Except UrlError Url :=
  ofParts { url.parts with fragment := some fragment.toList }

def withHost (url : Url) (host : String) : Except UrlError Url :=
  let cs := host.toList
  let isBracketed := cs.head? == some '[' && cs.getLast? == some ']'
  ofParts { url.parts with
    host := some (if cs.contains ':' && !isBracketed then '[' :: (cs ++ [']']) else cs) }

def withoutUserinfo (url : Url) : Except UrlError Url :=
  ofPieces { url.parts.pieces with userinfo := [] }

end ClientWiring.Url
