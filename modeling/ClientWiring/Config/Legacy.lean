import ClientWiring.Config.Decode
import ClientWiring.Config.Error
import ClientWiring.Text.Blank
set_option autoImplicit false

/-! The legacy source: a flat map of texts. A value is decoded when it is asked for, so a malformed
one matters only to the client that needs it; a blank one is as good as none. -/

namespace ClientWiring

structure PropertySource where
  properties : Dictionary String

namespace PropertySource

def empty : PropertySource := ⟨[]⟩

/-- The trimmed text under a key; none where it is absent or blank. -/
def raw? (source : PropertySource) (key : String) : Option String :=
  match source.properties.get? key with
  | none => none
  | some value => if Text.allBlank value then none else some (Text.trim value)

def has (source : PropertySource) (key : String) : Bool :=
  (source.raw? key).isSome

def get? (source : PropertySource) (key : String) (kind : Kind) :
    Except ConfigError (Option kind.Carrier) :=
  match source.raw? key with
  | none => .ok none
  | some raw =>
    match kind.decode (.text raw) with
    | .ok value => .ok (some value)
    | .error _ => .error (.invalidValue raw key kind.name)

end PropertySource

end ClientWiring
