import ClientWiring.Config.Key
import ClientWiring.Config.Legacy
import ClientWiring.Config.Root
set_option autoImplicit false

/-! The layers in which a setting of one client is looked up: its typed configuration, the legacy
key under the name of its interface, the legacy key under its own prefix. The first layer that has
the setting decides; a value there that cannot be decoded is an error and is never passed over. -/

namespace ClientWiring

structure Layers where
  interfaceName : String
  owner : String
  root : Option ConfigRoot
  source : PropertySource

namespace Layers

def clientConfig? (layers : Layers) : Option ClientConfig :=
  layers.root.bind fun root => root.client? layers.owner

def typed? (layers : Layers) (setting : Setting) : Option setting.Carrier :=
  layers.clientConfig?.bind fun config => config.get setting

/-- The legacy value of a setting name: under the interface name, else under the client's own. -/
def legacy? (layers : Layers) (setting : String) (kind : Kind) :
    Except ConfigError (Option kind.Carrier) :=
  match layers.source.get? (legacyKey layers.interfaceName setting) kind with
  | .error e => .error e
  | .ok (some value) => .ok (some value)
  | .ok none => layers.source.get? (legacyKey layers.owner setting) kind

def setting? (layers : Layers) (setting : Setting) :
    Except ConfigError (Option setting.Carrier) :=
  match layers.typed? setting with
  | some value => .ok (some value)
  | none =>
    match setting.legacyName? with
    | some name => layers.legacy? name setting.kind
    | none => .ok none

def global? (layers : Layers) (key : String) (kind : Kind) :
    Except ConfigError (Option kind.Carrier) :=
  layers.source.get? key kind

/-- The typed encoder mode, else the text of a global property. -/
def encoderMode? (layers : Layers) (key : String) : Except ConfigError (Option String) :=
  match layers.root.bind (·.encoderMode) with
  | some mode => .ok (some mode)
  | none => layers.global? key .text

/-! ### Looking up by name -/

structure NoField where
  recordType : String
  name : String
  deriving DecidableEq, Repr

def NoField.message (e : NoField) : String :=
  "'" ++ e.recordType ++ "' object has no attribute '" ++ e.name ++ "'"

/-- The typed value of the setting with a name; where the client has no typed configuration, every
name has no value. -/
def typedByName (layers : Layers) (name : String) : Except NoField (Option Value) :=
  match layers.clientConfig? with
  | none => .ok none
  | some config =>
    match Setting.ofField? name with
    | some setting => .ok ((config.get setting).map setting.kind.toValue)
    | none => .error ⟨"ClientConfig", name⟩

def rootByName (layers : Layers) (name : String) : Except NoField (Option Value) :=
  match layers.root with
  | none => .ok none
  | some root =>
    if name == GlobalSetting.multipartPostEncoderMode.field then
      .ok (root.encoderMode.map Value.text)
    else if name == GlobalSetting.disableSmartProduces.field then
      .ok (root.disableSmartProduces.map Value.bool)
    else .error ⟨"RestClientConfigRoot", name⟩

end Layers

end ClientWiring
