import ClientWiring.Class.Basic
import ClientWiring.Http.Message
import ClientWiring.Json.Encoding
import ClientWiring.Value.Whole
set_option autoImplicit false

/-! The ways in which an exchange of messages can fail. Failures of the request itself are told
apart from errors that pass through unchanged. -/

namespace ClientWiring

inductive RequestFailure where
  | timedOut
  /-- The connection failed, with a text of its own. -/
  | broken (text : String)
  | rejected (host verifier : String)
  | tooManyRedirects
  | invalidLocation (error : UrlError)
  deriving DecidableEq, Repr

namespace RequestFailure

def message : RequestFailure → String
  | timedOut => ""
  | broken text => text
  | rejected host verifier => "Host " ++ host ++ " rejected by " ++ verifier
  | tooManyRedirects => "Exceeded maximum allowed redirects."
  | invalidLocation error => "Invalid URL in location header: " ++ error.message ++ "."

end RequestFailure

/-- An error that passes through a client unchanged. -/
inductive EscapedError where
  | url (error : UrlError)
  | label (error : Url.LabelError)
  | unsendable (error : UnsendableField)
  | content (error : Json.CompactError)
  | thrown (error : Thrown)
  | write (error : WriteError)
  | undecodable (fault : Text.ByteFault)
  | tooManyDigits (digits : Nat)
  | tooDeep (inArray : Bool)
  deriving DecidableEq, Repr

namespace EscapedError

def message : EscapedError → String
  | url error => error.message
  | label error => error.message
  | unsendable error => error.message
  | content error => error.message
  | thrown error => error.text
  | write error => error.message
  | undecodable fault => fault.message
  | tooManyDigits digits => (NumberError.tooLong digits).message
  | tooDeep inArray =>
    "maximum recursion depth exceeded while decoding a JSON " ++
      (if inArray then "array" else "object") ++ " from a unicode string"

end EscapedError

inductive ExchangeError where
  | request (failure : RequestFailure)
  | escaped (error : EscapedError)
  deriving DecidableEq, Repr

namespace ExchangeError

def message : ExchangeError → String
  | request failure => failure.message
  | escaped error => error.message

end ExchangeError

end ClientWiring
