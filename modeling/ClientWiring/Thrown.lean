set_option autoImplicit false

/-! Errors of code outside: of the embedding application, of the runtime and of its libraries. -/

namespace ClientWiring

/-- An error that other code failed with: the name of its kind and its text. -/
structure Thrown where
  kind : String
  text : String
  deriving DecidableEq, Repr

end ClientWiring
