import ClientWiring.Config.Shared
import ClientWiring.Wiring.Stage
set_option autoImplicit false

/-! The entry points. A client is asked for by its interface; what the caller leaves out is taken
from the annotation of the interface and from the configuration that the application shares. -/

namespace ClientWiring

structure ClientOrder where
  variant : Variant
  interface : ClientInterface
  baseUri : Option String
  owner : Option String
  providers : List ClassInfo
  root : Option ConfigRoot
  source : Option PropertySource

inductive OrderError where
  | shared (error : SharedError)
  | wiring (error : WiringError)
  deriving DecidableEq, Repr

namespace ClientOrder

def rootOrShared (order : ClientOrder) : Access ConfigRoot :=
  match order.root with
  | some root => pure root
  | none => return (← Access.root).value

def sourceOrShared (order : ClientOrder) : Access PropertySource :=
  match order.source with
  | some source => pure source
  | none => return (← Access.source).value

def setup (order : ClientOrder) (registry : Registry) (around : Surroundings) : Access Setup := do
  let root ← order.rootOrShared
  let source ← order.sourceOrShared
  pure
    { variant := order.variant
      interface := order.interface
      annotationUri := order.interface.baseUriOr order.baseUri
      owner := order.interface.ownerOr order.owner
      annotationProviders := order.providers
      root := some root
      source := source
      registry := registry
      around := around }

/-- Makes the client with a builder. The shared configuration is loaded before the construction
starts, so a failure of it leaves no record. -/
def create {β ρ : Type} [ClientBuilder β ρ] [UrlReader] [StoreLibrary] (order : ClientOrder)
    (registry : Registry) (around : Surroundings) (elapsed : Double) (app : Application)
    (scene : Scene β) : Except OrderError ρ × Application × Scene β :=
  match (order.setup registry around).run app with
  | (.error e, app) => (.error (.shared e), app, scene)
  | (.ok setup, app) =>
    let (result, scene) := (setup.create elapsed : Step β ρ).run scene
    (result.mapError OrderError.wiring, app, scene)

end ClientOrder

end ClientWiring
