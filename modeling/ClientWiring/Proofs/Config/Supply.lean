import ClientWiring.Proofs.Config.Refusal
import ClientWiring.Proofs.Config.Root
import ClientWiring.Proofs.Dictionary
set_option autoImplicit false

/-! Which property decides a setting, and what it takes for properties to be loaded. The last
property that is read as a setting decides it: what a client is supplied with under a name is the
text of that one. -/

namespace ClientWiring

namespace ConfigRoot

/-! ### The property that decides -/

/-- The last of the properties whose key is read so. -/
def supplier? (properties : Dictionary String) (reading : TypedKey) : Option (String × String) :=
  properties.reverse.find? fun entry => decide (TypedKey.parse entry.1 = reading)

theorem supplier?_append (first second : Dictionary String) (reading : TypedKey) :
    supplier? (first ++ second) reading =
      (supplier? second reading).or (supplier? first reading) := by
  unfold supplier?
  rw [List.reverse_append, List.find?_append]

theorem supplier?_cons (entry : String × String) (rest : Dictionary String) (reading : TypedKey) :
    supplier? (entry :: rest) reading =
      (supplier? rest reading).or (if TypedKey.parse entry.1 = reading then some entry else none) := by
  rw [← List.singleton_append, supplier?_append]
  by_cases same : TypedKey.parse entry.1 = reading <;> simp [supplier?, same]

/-- Which property decides does not depend on the values. -/
theorem supplier?_map (properties : Dictionary String) (value : String × String → String)
    (reading : TypedKey) :
    supplier? (properties.map fun entry => (entry.1, value entry)) reading =
      (supplier? properties reading).map fun entry => (entry.1, value entry) := by
  unfold supplier?
  rw [← List.map_reverse, List.find?_map]
  rfl

theorem supplier?_eq_none_iff (properties : Dictionary String) (reading : TypedKey) :
    supplier? properties reading = none ↔ ∀ entry ∈ properties, TypedKey.parse entry.1 ≠ reading := by
  simp [supplier?]

theorem read_of_supplier? {properties : Dictionary String} {reading : TypedKey}
    {entry : String × String} (found : supplier? properties reading = some entry) :
    entry ∈ properties ∧ TypedKey.parse entry.1 = reading := by
  unfold supplier? at found
  have read := List.find?_some found
  exact ⟨List.mem_reverse.mp (List.mem_of_find?_eq_some found), of_decide_eq_true read⟩

/-- Where one property at most is read so, that one decides, wherever it stands. -/
theorem supplier?_eq_some_iff {properties : Dictionary String} {reading : TypedKey}
    (unique : ∀ entry ∈ properties, ∀ other ∈ properties,
      TypedKey.parse entry.1 = reading → TypedKey.parse other.1 = reading → entry = other)
    (entry : String × String) :
    supplier? properties reading = some entry ↔
      entry ∈ properties ∧ TypedKey.parse entry.1 = reading := by
  refine ⟨read_of_supplier?, ?_⟩
  rintro ⟨member, read⟩
  cases found : supplier? properties reading with
  | none => exact absurd read ((supplier?_eq_none_iff properties reading).mp found entry member)
  | some other =>
      obtain ⟨listed, readToo⟩ := read_of_supplier? found
      rw [unique other listed entry member readToo read]

theorem supplier?_perm {properties other : Dictionary String} {reading : TypedKey}
    (reordered : other.Perm properties)
    (unique : ∀ entry ∈ properties, ∀ other ∈ properties,
      TypedKey.parse entry.1 = reading → TypedKey.parse other.1 = reading → entry = other) :
    supplier? other reading = supplier? properties reading := by
  have unique' : ∀ entry ∈ other, ∀ second ∈ other,
      TypedKey.parse entry.1 = reading → TypedKey.parse second.1 = reading → entry = second := by
    intro entry member second listed
    exact unique entry (reordered.mem_iff.mp member) second (reordered.mem_iff.mp listed)
  apply Option.ext
  intro entry
  rw [supplier?_eq_some_iff unique, supplier?_eq_some_iff unique', reordered.mem_iff]

/-! ### What is supplied -/

theorem get?_supply (owner name : String) (found : Option (Dictionary Supplied))
    (entry : String × String) :
    ((supply owner found entry).getD []).get? name =
      if TypedKey.parse entry.1 = .client owner name then some ⟨entry.1, entry.2⟩
      else (found.getD []).get? name := by
  unfold supply
  split
  next other setting read =>
    simp only [read, TypedKey.client.injEq]
    by_cases own : other = owner
    · simp only [own, true_and, if_true, Option.getD_some, Dictionary.get?_insert]
    · simp only [own, false_and, if_false]
  next unread => rw [if_neg (unread owner name)]

/-- Under each name a client is supplied with what the deciding property gives. -/
theorem get?_suppliedTo (owner name : String) (properties : Dictionary String) :
    ((suppliedTo owner properties).getD []).get? name =
      (supplier? properties (.client owner name)).map fun entry => ⟨entry.1, entry.2⟩ := by
  -- What was supplied before the properties shows only where none of them decides.
  have folded (found : Option (Dictionary Supplied)) :
      ((properties.foldl (supply owner) found).getD []).get? name =
        ((supplier? properties (.client owner name)).map fun entry => ⟨entry.1, entry.2⟩).or
          ((found.getD []).get? name) := by
    induction properties generalizing found with
    | nil => rfl
    | cons entry rest ih =>
        rw [List.foldl_cons, ih, get?_supply, supplier?_cons]
        cases supplier? rest (.client owner name) with
        | some later => rfl
        | none => by_cases own : TypedKey.parse entry.1 = .client owner name <;> simp [own]
  rw [suppliedTo, folded]
  simp

theorem suppliedTo_isSome_iff (owner : String) (properties : Dictionary String) :
    (suppliedTo owner properties).isSome ↔
      ∃ entry ∈ properties, ∃ name, TypedKey.parse entry.1 = .client owner name := by
  have folded (found : Option (Dictionary Supplied)) :
      (properties.foldl (supply owner) found).isSome ↔
        found.isSome ∨ ∃ entry ∈ properties, ∃ name, TypedKey.parse entry.1 = .client owner name := by
    induction properties generalizing found with
    | nil => simp
    | cons entry rest ih =>
        have step : (supply owner found entry).isSome ↔
            found.isSome ∨ ∃ name, TypedKey.parse entry.1 = .client owner name := by
          unfold supply
          split
          next other setting read =>
            by_cases own : other = owner <;> simp [read, own]
          next unread =>
            have silent : ¬ ∃ name, TypedKey.parse entry.1 = .client owner name :=
              fun ⟨name, read⟩ => unread owner name read
            simp only [silent, or_false]
        rw [List.foldl_cons, ih, step, List.exists_mem_cons_iff, or_assoc]
  rw [suppliedTo, folded]
  simp

theorem suppliedTo_isSome_iff_supplier? (owner : String) (properties : Dictionary String) :
    (suppliedTo owner properties).isSome ↔
      ∃ name, supplier? properties (.client owner name) ≠ none := by
  rw [suppliedTo_isSome_iff]
  constructor
  · rintro ⟨entry, member, name, read⟩
    exact ⟨name, fun none => (supplier?_eq_none_iff _ _).mp none entry member read⟩
  · rintro ⟨name, found⟩
    obtain ⟨entry, deciding⟩ := Option.ne_none_iff_exists'.mp found
    obtain ⟨member, read⟩ := read_of_supplier? deciding
    exact ⟨entry, member, name, read⟩

theorem get?_suppliedGlobals (setting : GlobalSetting) (properties : Dictionary String) :
    (suppliedGlobals properties).get? setting.kebab =
      (supplier? properties (.everywhere setting)).map (·.2) := by
  have folded (globals : Dictionary String) :
      (properties.foldl supplyGlobal globals).get? setting.kebab =
        ((supplier? properties (.everywhere setting)).map (·.2)).or
          (globals.get? setting.kebab) := by
    induction properties generalizing globals with
    | nil => rfl
    | cons entry rest ih =>
        have step : (supplyGlobal globals entry).get? setting.kebab =
            if TypedKey.parse entry.1 = .everywhere setting then some entry.2
            else globals.get? setting.kebab := by
          unfold supplyGlobal
          split
          next other read =>
            have distinct : other.kebab = setting.kebab ↔ other = setting := by
              cases other <;> cases setting <;> decide
            simp only [read, Dictionary.get?_insert, TypedKey.everywhere.injEq, distinct]
          next unread => rw [if_neg (unread setting)]
        rw [List.foldl_cons, ih, step, supplier?_cons]
        cases supplier? rest (.everywhere setting) with
        | some later => rfl
        | none => by_cases own : TypedKey.parse entry.1 = .everywhere setting <;> simp [own]
  rw [suppliedGlobals, folded]
  simp

end ConfigRoot

/-! ### Decoding -/

namespace ClientConfig

theorem ofValues_congr {values other : Dictionary Value}
    (alike : ∀ name, values.get? name = other.get? name) {config : ClientConfig}
    (accepted : ofValues values = .ok config) : ofValues other = .ok config := by
  have supplied : supplied? values = supplied? other := by
    funext setting
    unfold supplied?
    rw [alike, alike]
  obtain ⟨decoded, known⟩ := (ofValues_eq_ok_iff values config).mp accepted
  refine (ofValues_eq_ok_iff other config).mpr ⟨?_, ?_⟩
  · intro setting
    rw [← decoded setting]
    unfold decodeSetting
    rw [supplied]
  · intro name listed
    have present : name ∈ values.keys := by
      by_contra absent
      rw [← Dictionary.get?_eq_none_iff, alike, Dictionary.get?_eq_none_iff] at absent
      exact absent listed
    have used := known name present
    unfold isUsed at used ⊢
    rwa [supplied] at used

end ClientConfig

namespace ConfigRoot

theorem decodeClient_eq_ok_iff (owner : String) (settings : Dictionary Supplied)
    (config : ClientConfig) :
    decodeClient owner settings = .ok config ↔
      ClientConfig.ofValues (settings.map fun entry => (entry.1, .text entry.2.value)) =
        .ok config := by
  unfold decodeClient
  dsimp only
  cases ClientConfig.ofValues (settings.map fun entry => (entry.1, .text entry.2.value)) <;> simp

theorem decodeClient_congr {owner : String} {settings other : Dictionary Supplied}
    (alike : ∀ name, settings.get? name = other.get? name) {config : ClientConfig}
    (decoded : decodeClient owner settings = .ok config) : decodeClient owner other = .ok config := by
  rw [decodeClient_eq_ok_iff] at decoded ⊢
  refine ClientConfig.ofValues_congr ?_ decoded
  intro name
  rw [Dictionary.get?_map settings (fun item => Value.text item.value),
    Dictionary.get?_map other (fun item => Value.text item.value), alike]

theorem decodeClients_ok_iff (clients : Dictionary (Dictionary Supplied)) :
    (∃ configs, decodeClients clients = .ok configs) ↔
      ∀ entry ∈ clients, ∃ config, decodeClient entry.1 entry.2 = .ok config := by
  induction clients with
  | nil => exact ⟨nofun, fun _ => ⟨[], rfl⟩⟩
  | cons entry rest ih =>
      rw [List.forall_mem_cons, ← ih, decodeClients]
      cases decodeClient entry.1 entry.2 with
      | error e => simp
      | ok config => cases decodeClients rest <;> simp

theorem nodup_collect {collected final : Collected} {properties : Dictionary String}
    (distinct : collected.clients.keys.Nodup) (read : collect collected properties = .ok final) :
    final.clients.keys.Nodup := by
  induction properties generalizing collected with
  | nil =>
      cases read
      exact distinct
  | cons entry rest ih =>
      unfold collect at read
      cases added : collected.add entry.1 entry.2 with
      | error e =>
          rw [added] at read
          cases read
      | ok next =>
          rw [added] at read
          refine ih ?_ read
          unfold Collected.add at added
          split at added
          · cases added
            exact distinct
          · cases added
            exact distinct
          · cases added
            exact distinct
          · cases added
            exact Dictionary.nodup_keys_insert distinct _ _
          · cases added

def globalValues (properties : Dictionary String) : Dictionary Value :=
  (suppliedGlobals properties).map fun entry => (entry.1, .text entry.2)

structure Loads (properties : Dictionary String) : Prop where
  wellFormed : malformed? properties = none
  clients : ∀ owner settings, suppliedTo owner properties = some settings →
    ∃ config, decodeClient owner settings = .ok config
  globals : ∀ setting : GlobalSetting,
    ∃ value, decodeGlobal (globalValues properties) setting = .ok value

theorem globalIssues_eq_nil_iff (values : Dictionary Value) :
    GlobalSetting.all.filterMap (globalIssue? values) = [] ↔
      ∀ setting, ∃ value, decodeGlobal values setting = .ok value := by
  have issue (setting : GlobalSetting) :
      globalIssue? values setting = none ↔ ∃ value, decodeGlobal values setting = .ok value := by
    unfold globalIssue?
    cases decodeGlobal values setting <;> simp
  have listed (setting : GlobalSetting) : setting ∈ GlobalSetting.all := by
    cases setting <;> decide
  rw [List.filterMap_eq_nil_iff]
  simp only [issue]
  exact ⟨fun each setting => each setting (listed setting), fun each setting _ => each setting⟩

/-- Properties are loaded exactly if no key is malformed, what each client is supplied with can be
decoded, and so can the global settings. -/
theorem ofProperties_ok_iff (properties : Dictionary String) :
    (∃ root, ofProperties properties = .ok root) ↔ Loads properties := by
  unfold ofProperties
  cases read : collect ⟨[], []⟩ properties with
  | error e =>
      obtain ⟨entry, found, -⟩ := (collect_eq_error_iff ⟨[], []⟩ properties e).mp read
      constructor
      · rintro ⟨root, loaded⟩
        cases loaded
      · intro loads
        rw [loads.wellFormed] at found
        cases found
  | ok collected =>
      obtain ⟨ofClients, ofGlobals⟩ := collect_eq_ok read
      have empty : (Collected.mk [] []).clients.keys.Nodup := List.nodup_nil
      have distinct : collected.clients.keys.Nodup := nodup_collect empty read
      have wellFormed : malformed? properties = none := by
        cases found : malformed? properties with
        | none => rfl
        | some entry =>
            rw [(collect_eq_error_iff ⟨[], []⟩ properties _).mpr ⟨entry, found, rfl⟩] at read
            cases read
      have decodable : (∃ configs, decodeClients collected.clients = .ok configs) ↔
          ∀ owner settings, suppliedTo owner properties = some settings →
            ∃ config, decodeClient owner settings = .ok config := by
        rw [decodeClients_ok_iff]
        constructor
        · intro each owner settings supplied
          have found : collected.clients.get? owner = some settings := by
            rw [ofClients owner]
            exact supplied
          exact each _ (Dictionary.mem_of_get? found)
        · intro each entry member
          refine each entry.1 entry.2 ?_
          have found := Dictionary.get?_of_mem distinct member
          rw [ofClients] at found
          exact found
      have globals : (collected.globals.map fun entry => (entry.1, Value.text entry.2)) =
          globalValues properties := by
        rw [ofGlobals]
        rfl
      dsimp only
      rw [globals]
      constructor
      · rintro ⟨root, loaded⟩
        cases decoded : decodeClients collected.clients with
        | error e =>
            rw [decoded] at loaded
            cases loaded
        | ok clients =>
            rw [decoded] at loaded
            refine ⟨wellFormed, decodable.mp ⟨clients, decoded⟩, ?_⟩
            rw [← globalIssues_eq_nil_iff]
            dsimp only at loaded
            split at loaded
            next faultless => exact faultless
            · cases loaded
      · rintro ⟨-, clients, decodableGlobals⟩
        obtain ⟨configs, decoded⟩ := decodable.mpr clients
        rw [decoded, (globalIssues_eq_nil_iff _).mpr decodableGlobals]
        exact ⟨_, rfl⟩

end ConfigRoot

end ClientWiring
