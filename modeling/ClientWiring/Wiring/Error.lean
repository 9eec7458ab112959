import ClientWiring.Config.Error
import ClientWiring.Files.Location
import ClientWiring.Url.Basic
import ClientWiring.Value.Whole
set_option autoImplicit false

/-! The ways in which the construction of a client can fail. A wrong configuration is the expected
one; the others come through from what the configuration leads to. -/

namespace ClientWiring

inductive WiringError where
  | config (error : ConfigError)
  /-- A module cannot be loaded, in a way that is no absence. -/
  | load (error : LoadError)
  | pathTooLong (path : String)
  | thrown (error : Thrown)
  | number (error : NumberError)
  | url (error : UrlError)
  | label (error : Url.LabelError)
  | tls (error : Thrown)
  deriving DecidableEq, Repr

namespace WiringError

def message : WiringError → String
  | config error => error.message
  | load error => error.message
  | pathTooLong path => (StoreError.nameTooLong path).message
  | thrown error => error.text
  | number error => error.message
  | url error => error.message
  | label error => error.message
  | tls error => error.text

def ofStoreError : StoreError → WiringError
  | .config error => config error
  | .load error => load error
  | .nameTooLong path => pathTooLong path
  | .thrown error => thrown error

end WiringError

end ClientWiring
