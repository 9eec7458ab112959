import ClientWiring.Config.Legacy
import ClientWiring.Config.Root
import ClientWiring.Config.Settings
set_option autoImplicit false

/-! The configuration that the clients of an application share. The settings, the typed root and the
legacy source are each loaded when they are first asked for and kept from then on: the settings
until they are cleared, the other two until they are reset. A load that fails keeps nothing, so it
is tried again. -/

namespace ClientWiring

inductive SharedError where
  | settings (error : SettingsError)
  | config (error : ConfigError)
  deriving DecidableEq, Repr

/-- A value that was loaded, and the number of its load: what comes from one load is one object. -/
structure Loaded (α : Type) where
  value : α
  serial : Nat
  deriving Repr, Inhabited

structure Application where
  site : Site
  settings : Option Settings
  root : Option (Loaded ConfigRoot)
  source : Option (Loaded PropertySource)
  loads : Nat

abbrev Access (α : Type) := ExceptT SharedError (StateM Application) α

namespace Access

def ofExcept {ε α : Type} (toError : ε → SharedError) (result : Except ε α) : Access α :=
  match result with
  | .ok a => pure a
  | .error e => throw (toError e)

def settings : Access Settings := do
  let app ← get
  match app.settings with
  | some settings => pure settings
  | none => do
    let settings ← ofExcept SharedError.settings (Settings.load app.site [])
    set { app with settings := some settings }
    pure settings

def properties : Access (Dictionary String) := do
  let settings ← settings
  let app ← get
  ofExcept (fun fault => .settings (.undecodable fault)) (settings.properties app.site)

def root : Access (Loaded ConfigRoot) := do
  match (← get).root with
  | some root => pure root
  | none => do
    let root ← ofExcept SharedError.config (ConfigRoot.ofProperties (← properties))
    let app ← get
    let loaded : Loaded ConfigRoot := ⟨root, app.loads⟩
    set { app with root := some loaded, loads := app.loads + 1 }
    pure loaded

def source : Access (Loaded PropertySource) := do
  match (← get).source with
  | some source => pure source
  | none => do
    let properties ← properties
    let app ← get
    let loaded : Loaded PropertySource := ⟨⟨properties⟩, app.loads⟩
    set { app with source := some loaded, loads := app.loads + 1 }
    pure loaded

def client? (owner : String) : Access (Option ClientConfig) :=
  return (← root).value.client? owner

end Access

namespace Application

def start (site : Site) : Application := ⟨site, none, none, none, 0⟩

def reset (app : Application) : Application :=
  { app with root := none, source := none }

def clearSettings (app : Application) : Application :=
  { app with settings := none }

def setVariable (app : Application) (name value : String) : Application :=
  { app with
    site := { app.site with environment := app.site.environment.insert name value } }

def unsetVariable (app : Application) (name : String) : Application :=
  { app with
    site := { app.site with environment := app.site.environment.erase name } }

def write (app : Application) (path : String) (entry : FileEntry) : Application :=
  { app with site := { app.site with tree := app.site.tree.write path entry } }

end Application

end ClientWiring
