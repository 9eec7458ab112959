import ClientWiring.Config.Decode
set_option autoImplicit false

/-! The typed configuration of one client, decoded from named values. A setting is supplied under
its hyphenated name or under its field name; the hyphenated one wins, and the other then counts as
unknown. All faults are reported: those of the settings in their fixed order, then the unknown names
in the order of the input. -/

namespace ClientWiring

structure ClientConfig where
  get : (setting : Setting) → Option setting.Carrier

namespace ClientConfig

def empty : ClientConfig := ⟨fun _ => none⟩

/-- The settings that are present, with their values, in the fixed order. -/
def entries (config : ClientConfig) : List (String × Value) :=
  Setting.all.filterMap fun setting =>
    (config.get setting).map fun value => (setting.field, setting.kind.toValue value)

end ClientConfig

/-- A fault and the path of names that leads to its place. -/
structure Issue where
  path : List String
  fault : DecodeFault
  deriving DecidableEq, Repr

namespace ClientConfig

def supplied? (values : Dictionary Value) (setting : Setting) : Option (String × Value) :=
  match values.get? setting.kebab with
  | some value => some (setting.kebab, value)
  | none => (values.get? setting.field).map fun value => (setting.field, value)

/-- The decoded value of a setting; an explicit null is an absent one. -/
def decodeSetting (values : Dictionary Value) (setting : Setting) :
    Except Issue (Option setting.Carrier) :=
  match supplied? values setting with
  | none | some (_, .null) => .ok none
  | some (name, value) =>
    match setting.kind.decode value with
    | .ok decoded => .ok (some decoded)
    | .error fault => .error ⟨[name], fault⟩

def issue? (values : Dictionary Value) (setting : Setting) : Option Issue :=
  match decodeSetting values setting with
  | .ok _ => none
  | .error issue => some issue

def isUsed (values : Dictionary Value) (name : String) : Bool :=
  Setting.all.any fun setting => (supplied? values setting).any fun found => found.1 == name

def issues (values : Dictionary Value) : List Issue :=
  Setting.all.filterMap (issue? values) ++
    ((values.keys.filter fun name => !isUsed values name).map fun name => ⟨[name], .unknownName⟩)

def ofValues (values : Dictionary Value) : Except (List Issue) ClientConfig :=
  match issues values with
  | [] => .ok ⟨fun setting => ((decodeSetting values setting).toOption).join⟩
  | faults => .error faults

/-- Assigning to a name of a configuration. Configurations do not change; only names that start
with an underscore, which no setting has, are taken. -/
def assign (name : String) : Except Issue Unit :=
  if name.startsWith "_" && name != "__root__" then .ok () else .error ⟨[name], .frozen⟩

end ClientConfig

end ClientWiring
