import ClientWiring.Config.Root
set_option autoImplicit false

/-! What a typed configuration has of one client. It depends on the properties whose keys are read as
settings of that client, in their order, and on no others; the global settings depend on their own
keys in the same way. -/

namespace ClientWiring

namespace ClientConfig

theorem issue?_eq_none_iff (values : Dictionary Value) (setting : Setting) :
    issue? values setting = none ↔ ∃ value, decodeSetting values setting = .ok value := by
  unfold issue?
  cases decodeSetting values setting <;> simp

theorem issues_eq_nil_iff (values : Dictionary Value) :
    issues values = [] ↔
      (∀ setting, ∃ value, decodeSetting values setting = .ok value) ∧
        ∀ name ∈ values.keys, isUsed values name = true := by
  unfold issues
  rw [List.append_eq_nil_iff, List.filterMap_eq_nil_iff, List.map_eq_nil_iff,
    List.filter_eq_nil_iff]
  simp only [issue?_eq_none_iff, Bool.not_eq_true', Bool.not_eq_false]
  exact and_congr_left' ⟨fun each setting => each setting setting.mem_all,
    fun each setting _ => each setting⟩

theorem ofValues_eq_ok_iff (values : Dictionary Value) (config : ClientConfig) :
    ofValues values = .ok config ↔
      (∀ setting, decodeSetting values setting = .ok (config.get setting)) ∧
        ∀ name ∈ values.keys, isUsed values name = true := by
  unfold ofValues
  constructor
  · intro accepted
    split at accepted
    next faultless =>
      cases accepted
      obtain ⟨decodable, known⟩ := (issues_eq_nil_iff values).mp faultless
      refine ⟨?_, known⟩
      intro setting
      obtain ⟨value, decoded⟩ := decodable setting
      dsimp only
      rw [decoded]
      rfl
    · cases accepted
  · rintro ⟨decoded, known⟩
    rw [(issues_eq_nil_iff values).mpr ⟨fun setting => ⟨_, decoded setting⟩, known⟩]
    simp only [decoded]
    rfl

theorem decodeSetting_of_ofValues {values : Dictionary Value} {config : ClientConfig}
    (accepted : ofValues values = .ok config) (setting : Setting) :
    decodeSetting values setting = .ok (config.get setting) :=
  ((ofValues_eq_ok_iff values config).mp accepted).1 setting

/-- Values are accepted as a whole if each is accepted and none stands under an unknown name. -/
theorem ofValues_of_decodable {values : Dictionary Value}
    (decodable : ∀ setting, ∃ value, decodeSetting values setting = .ok value)
    (known : ∀ name ∈ values.keys, isUsed values name = true) :
    ∃ config, ofValues values = .ok config := by
  unfold ofValues
  rw [(issues_eq_nil_iff values).mpr ⟨decodable, known⟩]
  exact ⟨_, rfl⟩

end ClientConfig

namespace ConfigRoot

/-! ### Collecting -/

def supply (owner : String) (found : Option (Dictionary Supplied)) (entry : String × String) :
    Option (Dictionary Supplied) :=
  match TypedKey.parse entry.1 with
  | .client other setting =>
    if other = owner then some ((found.getD []).insert setting ⟨entry.1, entry.2⟩) else found
  | _ => found

def supplyGlobal (globals : Dictionary String) (entry : String × String) : Dictionary String :=
  match TypedKey.parse entry.1 with
  | .everywhere setting => globals.insert setting.kebab entry.2
  | _ => globals

def suppliedTo (owner : String) (properties : Dictionary String) : Option (Dictionary Supplied) :=
  properties.foldl (supply owner) none

def suppliedGlobals (properties : Dictionary String) : Dictionary String :=
  properties.foldl supplyGlobal []

theorem add_eq_ok {collected next : Collected} {key value : String}
    (added : collected.add key value = .ok next) :
    (∀ owner, next.clients.get? owner = supply owner (collected.clients.get? owner) (key, value)) ∧
      next.globals = supplyGlobal collected.globals (key, value) := by
  unfold Collected.add at added
  unfold supply supplyGlobal
  cases read : TypedKey.parse key with
  | foreign =>
      rw [read] at added
      cases added
      exact ⟨fun _ => rfl, rfl⟩
  | lookedUp =>
      rw [read] at added
      cases added
      exact ⟨fun _ => rfl, rfl⟩
  | everywhere setting =>
      rw [read] at added
      cases added
      exact ⟨fun _ => rfl, rfl⟩
  | malformed =>
      rw [read] at added
      cases added
  | client other setting =>
      rw [read] at added
      cases added
      refine ⟨?_, rfl⟩
      intro owner
      unfold Collected.addClient
      dsimp only
      rw [Dictionary.get?_insert]
      split
      next same => rw [same]
      · rfl

theorem collect_eq_ok {collected final : Collected} {properties : Dictionary String}
    (read : collect collected properties = .ok final) :
    (∀ owner, final.clients.get? owner =
      properties.foldl (supply owner) (collected.clients.get? owner)) ∧
      final.globals = properties.foldl supplyGlobal collected.globals := by
  induction properties generalizing collected with
  | nil =>
      cases read
      exact ⟨fun _ => rfl, rfl⟩
  | cons entry rest ih =>
      unfold collect at read
      cases added : collected.add entry.1 entry.2 with
      | error e =>
          rw [added] at read
          cases read
      | ok next =>
          rw [added] at read
          obtain ⟨clients, globals⟩ := add_eq_ok added
          obtain ⟨later, laterGlobals⟩ := ih read
          refine ⟨?_, ?_⟩
          · intro owner
            rw [later owner, clients owner, List.foldl_cons]
          · rw [laterGlobals, globals, List.foldl_cons]

/-! ### Decoding -/

theorem get?_decodeClients {clients : Dictionary (Dictionary Supplied)}
    {configs : Dictionary ClientConfig} (decoded : decodeClients clients = .ok configs)
    (owner : String) :
    configs.get? owner =
      (clients.get? owner).bind fun settings => (decodeClient owner settings).toOption := by
  induction clients generalizing configs with
  | nil =>
      cases decoded
      rfl
  | cons entry rest ih =>
      unfold decodeClients at decoded
      cases first : decodeClient entry.1 entry.2 with
      | error e =>
          rw [first] at decoded
          cases decoded
      | ok config =>
          rw [first] at decoded
          cases others : decodeClients rest with
          | error e =>
              rw [others] at decoded
              cases decoded
          | ok found =>
              rw [others] at decoded
              cases decoded
              rw [Dictionary.get?_cons, Dictionary.get?_cons, ih others]
              by_cases same : entry.1 = owner
              · rw [if_pos same, if_pos same, ← same, Option.bind_some, first]
                rfl
              · rw [if_neg same, if_neg same]

/-- A typed configuration has of each client what its own properties say, and of the global settings
what theirs say. -/
theorem ofProperties_eq_ok {properties : Dictionary String} {root : ConfigRoot}
    (loads : ofProperties properties = .ok root) :
    (∀ owner, root.client? owner = (suppliedTo owner properties).bind fun settings =>
      (decodeClient owner settings).toOption) ∧
    ∃ clients, root = withGlobals clients
      ((suppliedGlobals properties).map fun entry => (entry.1, Value.text entry.2)) := by
  unfold ofProperties at loads
  cases read : collect ⟨[], []⟩ properties with
  | error e =>
      rw [read] at loads
      cases loads
  | ok collected =>
      rw [read] at loads
      obtain ⟨ofClients, globals⟩ := collect_eq_ok read
      dsimp only at loads
      cases decoded : decodeClients collected.clients with
      | error e =>
          rw [decoded] at loads
          cases loads
      | ok clients =>
          rw [decoded] at loads
          dsimp only at loads
          split at loads
          · cases loads
            refine ⟨?_, clients, by rw [globals]; rfl⟩
            intro owner
            change clients.get? owner = _
            rw [get?_decodeClients decoded, ofClients owner]
            rfl
          · cases loads

/-! ### Properties of one client -/

theorem collect_owned {owner : String} {properties : Dictionary String}
    (owned : ∀ entry ∈ properties, ∃ setting, TypedKey.parse entry.1 = .client owner setting)
    (found : Option (Dictionary Supplied)) :
    collect ⟨found.toList.map (owner, ·), []⟩ properties =
      .ok ⟨(properties.foldl (supply owner) found).toList.map (owner, ·), []⟩ := by
  induction properties generalizing found with
  | nil => rfl
  | cons entry rest ih =>
      obtain ⟨setting, read⟩ := owned entry List.mem_cons_self
      have added : Collected.add ⟨found.toList.map (owner, ·), []⟩ entry.1 entry.2 =
          .ok ⟨(supply owner found entry).toList.map (owner, ·), []⟩ := by
        unfold Collected.add supply Collected.addClient
        rw [read]
        cases found <;> simp [Dictionary.insert, Dictionary.get?_cons]
      rw [collect, added, List.foldl_cons]
      exact ih (fun other member => owned other (List.mem_cons_of_mem _ member)) _

theorem ofProperties_owned {owner : String} {properties : Dictionary String}
    (owned : ∀ entry ∈ properties, ∃ setting, TypedKey.parse entry.1 = .client owner setting) :
    ofProperties properties =
      ((suppliedTo owner properties).elim (.ok .empty) fun settings =>
        (decodeClient owner settings).map fun config => ⟨[(owner, config)], none, none⟩) := by
  have collected : collect ⟨[], []⟩ properties =
      .ok ⟨(suppliedTo owner properties).toList.map (owner, ·), []⟩ :=
    collect_owned owned none
  unfold ofProperties
  rw [collected]
  cases suppliedTo owner properties with
  | none => rfl
  | some settings =>
      simp only [Option.toList_some, List.map_cons, List.map_nil, decodeClients, Option.elim_some]
      cases decodeClient owner settings <;> rfl

end ConfigRoot

end ClientWiring
