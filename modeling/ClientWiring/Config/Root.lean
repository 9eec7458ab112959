import ClientWiring.Config.Client
import ClientWiring.Config.Key
set_option autoImplicit false

/-! The typed configuration of all clients. It is collected from flat properties in two passes: the
keys are read in order, the first malformed one ends the reading, and only then are values decoded,
client by client in the order of first appearance and the global settings last. -/

namespace ClientWiring

structure ConfigRoot where
  clients : Dictionary ClientConfig
  encoderMode : Option String
  disableSmartProduces : Option Bool

namespace ConfigRoot

def empty : ConfigRoot := ⟨[], none, none⟩

def client? (root : ConfigRoot) (owner : String) : Option ClientConfig :=
  root.clients.get? owner

/-- A value and the key that supplied it, as spelled. -/
structure Supplied where
  key : String
  value : String
  deriving DecidableEq, Repr

/-- The settings that properties supply, before decoding. -/
structure Collected where
  clients : Dictionary (Dictionary Supplied)
  globals : Dictionary String

def Collected.addClient (collected : Collected) (owner setting : String) (item : Supplied) :
    Collected :=
  let settings := (collected.clients.get? owner).getD []
  { collected with clients := collected.clients.insert owner (settings.insert setting item) }

def Collected.add (collected : Collected) (key value : String) :
    Except ConfigError Collected :=
  match TypedKey.parse key with
  | .foreign | .lookedUp => .ok collected
  | .everywhere setting =>
    .ok { collected with globals := collected.globals.insert setting.kebab value }
  | .client owner setting => .ok (collected.addClient owner setting ⟨key, value⟩)
  | .malformed => .error (.invalidKey key)

/-- The settings that properties supply; the first malformed key is refused. -/
def collect (collected : Collected) : List (String × String) → Except ConfigError Collected
  | [] => .ok collected
  | (key, value) :: rest =>
    match collected.add key value with
    | .ok collected => collect collected rest
    | .error e => .error e

def issuePart (keyOf : String → String) (issue : Issue) : String × String :=
  (keyOf (issue.path.headD ""), issue.fault.message)

/-- The configuration of one client, decoded from what was collected. -/
def decodeClient (owner : String) (settings : Dictionary Supplied) :
    Except ConfigError ClientConfig :=
  let keyOf (name : String) := ((settings.get? name).map (·.key)).getD name
  match ClientConfig.ofValues (settings.map fun entry => (entry.1, .text entry.2.value)) with
  | .ok config => .ok config
  | .error issues => .error (.invalidClient owner (issues.map (issuePart keyOf)))

def decodeClients : Dictionary (Dictionary Supplied) → Except ConfigError (Dictionary ClientConfig)
  | [] => .ok []
  | (owner, settings) :: rest =>
    match decodeClient owner settings with
    | .error e => .error e
    | .ok config =>
      match decodeClients rest with
      | .error e => .error e
      | .ok configs => .ok ((owner, config) :: configs)

def suppliedGlobal? (values : Dictionary Value) (setting : GlobalSetting) :
    Option (String × Value) :=
  match values.get? setting.kebab with
  | some value => some (setting.kebab, value)
  | none => (values.get? setting.field).map fun value => (setting.field, value)

def decodeGlobal (values : Dictionary Value) (setting : GlobalSetting) :
    Except Issue (Option setting.kind.Carrier) :=
  match suppliedGlobal? values setting with
  | none | some (_, .null) => .ok none
  | some (name, value) =>
    match setting.kind.decode value with
    | .ok decoded => .ok (some decoded)
    | .error fault => .error ⟨[name], fault⟩

def globalIssue? (values : Dictionary Value) (setting : GlobalSetting) : Option Issue :=
  match decodeGlobal values setting with
  | .ok _ => none
  | .error issue => some issue

def withGlobals (clients : Dictionary ClientConfig) (values : Dictionary Value) : ConfigRoot where
  clients := clients
  encoderMode := (decodeGlobal values .multipartPostEncoderMode).toOption.join
  disableSmartProduces := (decodeGlobal values .disableSmartProduces).toOption.join

def ofProperties (properties : Dictionary String) : Except ConfigError ConfigRoot :=
  match collect ⟨[], []⟩ properties with
  | .error e => .error e
  | .ok collected =>
    match decodeClients collected.clients with
    | .error e => .error e
    | .ok clients =>
      let values := collected.globals.map fun entry => (entry.1, Value.text entry.2)
      match GlobalSetting.all.filterMap (globalIssue? values) with
      | [] => .ok (withGlobals clients values)
      | issues =>
        .error (.invalidGlobals (issues.map (issuePart fun name => configNamespace ++ "." ++ name)))

/-! ### Decoding a whole configuration from named values -/

def clientsField : String := "configs"

def decodeEach : List (String × Value) → List Issue × Dictionary ClientConfig
  | [] => ([], [])
  | (owner, value) :: rest =>
    let (issues, configs) := decodeEach rest
    match value with
    | .dict entries =>
      match ClientConfig.ofValues entries with
      | .ok config => (issues, (owner, config) :: configs)
      | .error faults =>
        (faults.map (fun issue => ⟨clientsField :: owner :: issue.path, issue.fault⟩) ++ issues,
          configs)
    | _ => (⟨[clientsField, owner], .recordExpected "ClientConfig"⟩ :: issues, configs)

def decodeClientField (values : Dictionary Value) : List Issue × Dictionary ClientConfig :=
  match values.get? clientsField with
  | none => ([], [])
  | some (.dict entries) => decodeEach entries
  | some _ => ([⟨[clientsField], .dictionaryExpected⟩], [])

def isUsed (values : Dictionary Value) (name : String) : Bool :=
  name == clientsField ||
    GlobalSetting.all.any fun setting =>
      (suppliedGlobal? values setting).any fun found => found.1 == name

def fieldIssues (values : Dictionary Value) : List Issue :=
  GlobalSetting.all.filterMap (globalIssue? values) ++
    ((values.keys.filter fun name => !isUsed values name).map fun name => ⟨[name], .unknownName⟩)

/-- The configuration of clients, each by its own named values, and named global values, or the
faults of the first part that has some. -/
def ofParts (clients : List (String × Dictionary Value)) (values : Dictionary Value) :
    Except (List Issue) ConfigRoot := do
  let configs ← clients.mapM fun client =>
    (ClientConfig.ofValues client.2).map fun config => (client.1, config)
  match fieldIssues values with
  | [] => pure (withGlobals (Dictionary.ofPairs configs) values)
  | issues => throw issues

def ofValues (values : Dictionary Value) : Except (List Issue) ConfigRoot :=
  let (clientIssues, clients) := decodeClientField values
  match clientIssues ++ fieldIssues values with
  | [] => .ok (withGlobals clients values)
  | issues => .error issues

end ConfigRoot

end ClientWiring
