set_option autoImplicit false

/-! The interface of a client: the class that declares its operations and, if it is annotated, where
the service is and under which name the client is configured. -/

namespace ClientWiring

structure ClientInterface where
  module : String
  qualname : String
  baseUri : Option String
  configKey : Option String
  deriving DecidableEq, Repr, Inhabited

namespace ClientInterface

def name (interface : ClientInterface) : String :=
  interface.module ++ "." ++ interface.qualname

def baseUriOr (interface : ClientInterface) (given : Option String) : Option String :=
  given.orElse fun _ => interface.baseUri

/-- The name under which a client is configured: the one that is given, else the annotation's unless
it is empty, else the name of the interface. -/
def ownerOr (interface : ClientInterface) (given : Option String) : String :=
  match given with
  | some owner => owner
  | none =>
    match interface.configKey with
    | some key => if key.isEmpty then interface.name else key
    | none => interface.name

end ClientInterface

end ClientWiring
