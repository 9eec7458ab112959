import ClientWiring.Text.Quoted
import ClientWiring.Url.Idna
import ClientWiring.Url.Percent
set_option autoImplicit false

/-! URLs in parts. The parts of a parsed URL are in normal form: the scheme and the host in small
letters, everything percent-encoded where needed, the port left out where it is the scheme's own. -/

namespace ClientWiring

/-- A URL in parts. The host of an IPv6 address stands without its brackets. -/
structure Url where
  scheme : String
  userinfo : String
  host : String
  port : Option Int
  path : String
  query : Option String
  fragment : Option String
  deriving DecidableEq, Repr, Inhabited

inductive UrlError where
  | tooLong
  | partTooLong (part : String)
  /-- A control character at a place, in a part where one is named. -/
  | controlCharacter (c : Char) (position : Nat) (part : Option String)
  | invalidPart (part : String)
  | invalidIPv4 (host : String)
  | invalidIPv6 (host : String)
  | invalidName (host : String)
  | invalidPort (port : String)
  | pathWithoutSlash
  | pathWithTwoSlashes
  | pathWithColon
  deriving DecidableEq, Repr

namespace UrlError

def message : UrlError → String
  | tooLong => "URL too long"
  | partTooLong part => "URL component '" ++ part ++ "' too long"
  | controlCharacter c position part =>
    "Invalid non-printable ASCII character in URL" ++
      (match part with
      | some part => " " ++ part ++ " component"
      | none => "") ++
      ", " ++ Text.quoted (String.singleton c) ++ " at position " ++ toString position ++ "."
  | invalidPart part => "Invalid URL component '" ++ part ++ "'"
  | invalidIPv4 host => "Invalid IPv4 address: " ++ Text.quoted host
  | invalidIPv6 host => "Invalid IPv6 address: " ++ Text.quoted host
  | invalidName host => "Invalid IDNA hostname: " ++ Text.quoted host
  | invalidPort port => "Invalid port: " ++ Text.quoted port
  | pathWithoutSlash => "For absolute URLs, path must be empty or begin with '/'"
  | pathWithTwoSlashes => "Relative URLs cannot have a path starting with '//'"
  | pathWithColon => "Relative URLs cannot have a path starting with ':'"

end UrlError

namespace Url

def bracketed (host : String) : String :=
  if host.toList.contains ':' then "[" ++ host ++ "]" else host

def portText (port : Option Int) : String :=
  match port with
  | some n => ":" ++ toString n
  | none => ""

def netloc (url : Url) : String :=
  bracketed url.host ++ portText url.port

/-- The user information, the host and the port. -/
def authority (url : Url) : String :=
  (if url.userinfo.isEmpty then "" else url.userinfo ++ "@") ++ url.netloc

def rawPath (url : Url) : String :=
  (if url.path.isEmpty then "/" else url.path) ++
    (match url.query with
    | some query => "?" ++ query
    | none => "")

def text (url : Url) : String :=
  (if url.scheme.isEmpty then "" else url.scheme ++ ":") ++
    (if url.authority.isEmpty then "" else "//" ++ url.authority) ++ url.path ++
    (match url.query with
    | some query => "?" ++ query
    | none => "") ++
    (match url.fragment with
    | some fragment => "#" ++ fragment
    | none => "")

/-- The host as people read it: the ASCII form of another script's name is decoded. -/
def readableHost [Idna] (url : Url) : Except LabelError String :=
  if punycodeMark.isPrefixOf url.host.toList then
    (Idna.decode url.host.toList).map String.ofList
  else .ok url.host

def isAbsolute (url : Url) : Bool :=
  !url.scheme.isEmpty && !url.host.isEmpty

end Url

end ClientWiring
