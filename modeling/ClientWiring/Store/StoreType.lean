import ClientWiring.Config.Error
import ClientWiring.Text.Blank
import ClientWiring.Text.UpperCase
set_option autoImplicit false

/-! The kinds of key and trust store. A configured kind is read in any case and with blanks around
it; an absent or empty one means the default kind. -/

namespace ClientWiring

inductive StoreType where
  | pkcs12
  | jks
  | jceks
  | pem
  deriving DecidableEq, Repr, Inhabited

namespace StoreType

def all : List StoreType := [pkcs12, jks, jceks, pem]

def name : StoreType → String
  | pkcs12 => "PKCS12"
  | jks => "JKS"
  | jceks => "JCEKS"
  | pem => "PEM"

def aliases : List (String × StoreType) := [("P12", pkcs12), ("PFX", pkcs12)]

def ofName? (name : String) : Option StoreType :=
  (aliases.lookup name).orElse fun _ => all.find? fun type => type.name == name

def ofSetting (setting : Option String) : Except ConfigError StoreType :=
  match setting with
  | none => .ok pkcs12
  | some text =>
    if text.isEmpty then .ok pkcs12
    else
      match ofName? (Text.upperKeyword (Text.trim text)) with
      | some type => .ok type
      | none => .error (.unsupportedStoreType text (all.map name))

end StoreType

end ClientWiring
