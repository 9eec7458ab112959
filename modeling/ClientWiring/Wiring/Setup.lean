import ClientWiring.Class.Registry
import ClientWiring.Client.Interface
import ClientWiring.Config.Layers
import ClientWiring.Store.Load
import ClientWiring.Wiring.Run
set_option autoImplicit false

/-! Everything that decides how one client is constructed. -/

namespace ClientWiring

/-- The two kinds of client: one waits for each call, the other does not. -/
inductive Variant where
  | classic
  | reactive
  deriving DecidableEq, Repr, Inhabited

namespace Variant

def name : Variant → String
  | classic => "classic"
  | reactive => "reactive"

end Variant

structure Setup where
  variant : Variant
  interface : ClientInterface
  annotationUri : Option String
  owner : String
  annotationProviders : List ClassInfo
  root : Option ConfigRoot
  source : PropertySource
  registry : Registry
  around : Surroundings

namespace Setup

def layers (setup : Setup) : Layers :=
  ⟨setup.interface.name, setup.owner, setup.root, setup.source⟩

def setting? (setup : Setup) (setting : Setting) :
    Except WiringError (Option setting.Carrier) :=
  (setup.layers.setting? setting).mapError WiringError.config

def global? (setup : Setup) (key : String) (kind : Kind) :
    Except WiringError (Option kind.Carrier) :=
  (setup.layers.global? key kind).mapError WiringError.config

def audit (setup : Setup) : Audit :=
  ⟨setup.owner, setup.interface.name, setup.variant.name, setup.layers.clientConfig?.isSome⟩

def defaultScope : String := "ApplicationScoped"

def scope (setup : Setup) : Except WiringError String :=
  (setup.setting? .scope).map fun configured =>
    match configured with
    | some scope => if scope.isEmpty then defaultScope else scope
    | none => defaultScope

end Setup

end ClientWiring
