import Mathlib.Data.List.Nodup
import ClientWiring.Proofs.Config.Assignment
import ClientWiring.Proofs.Config.Meaning
set_option autoImplicit false

/-! Which properties are named when a configuration is refused. Of the properties that say the same
only the last one is looked at, so only this one can offend. The first client that has an offending
property is reported with all of them, each under its key as it is spelled; if no client has one,
the offending global settings are reported in the same way. -/

namespace ClientWiring

/-- A text is refused under a name: it cannot be decoded, or no setting has the name. -/
inductive ClientConfig.Refuses : String → String → DecodeFault → Prop
  | undecodable {setting : Setting} {text : String} {fault : DecodeFault}
      (refused : setting.kind.decode (.text text) = .error fault) :
      Refuses setting.kebab text fault
  | unknown {name text : String} (unknown : ∀ setting : Setting, setting.kebab ≠ name) :
      Refuses name text .unknownName

namespace ConfigRoot

/-- A property that decides a setting of a client and is refused, with the fault. -/
def ClientOffence (properties : Dictionary String) (owner : String) (entry : String × String)
    (fault : DecodeFault) : Prop :=
  ∃ name, supplier? properties (.client owner name) = some entry ∧
    ClientConfig.Refuses name entry.2 fault

def GlobalOffence (properties : Dictionary String) (entry : String × String)
    (fault : DecodeFault) : Prop :=
  ∃ setting : GlobalSetting, supplier? properties (.everywhere setting) = some entry ∧
    setting.kind.decode (.text entry.2) = .error fault

/-- Parts of a message that name exactly the offending properties, each once under its key, with
the fault. -/
structure Reports (parts : List (String × String))
    (offence : String × String → DecodeFault → Prop) : Prop where
  once : (parts.map (·.1)).Nodup
  complete : ∀ part, part ∈ parts ↔
    ∃ entry fault, offence entry fault ∧ part = (entry.1, fault.message)

/-! ### One setting -/

def decodeEntry (kind : Kind) (name : String) :
    Option (String × String) → Except Issue (Option kind.Carrier)
  | none => .ok none
  | some entry =>
    match kind.decode (.text entry.2) with
    | .ok value => .ok (some value)
    | .error fault => .error ⟨[name], fault⟩

theorem decodeEntry_eq_error_iff {kind : Kind} {name : String} {found : Option (String × String)}
    {issue : Issue} :
    decodeEntry kind name found = .error issue ↔
      ∃ entry fault, found = some entry ∧ kind.decode (.text entry.2) = .error fault ∧
        issue = ⟨[name], fault⟩ := by
  cases found with
  | none => simp [decodeEntry]
  | some entry =>
      rw [decodeEntry]
      cases decoded : kind.decode (.text entry.2) with
      | ok value =>
          refine ⟨nofun, ?_⟩
          rintro ⟨other, fault, same, refused, -⟩
          cases same
          cases decoded.symm.trans refused
      | error fault =>
          constructor
          · intro same
            cases same
            exact ⟨entry, fault, rfl, decoded, rfl⟩
          · rintro ⟨other, cause, same, refused, rfl⟩
            cases same
            cases decoded.symm.trans refused
            rfl

/-! ### One client -/

abbrev texts (settings : Dictionary Supplied) : Dictionary Value :=
  settings.map fun entry => (entry.1, .text entry.2.value)

theorem nodup_supply {owner : String} {found : Option (Dictionary Supplied)}
    (distinct : (found.getD []).keys.Nodup) (entry : String × String) :
    ((supply owner found entry).getD []).keys.Nodup := by
  unfold supply
  split
  next other setting read =>
    split
    · exact Dictionary.nodup_keys_insert distinct _ _
    · exact distinct
  · exact distinct

theorem nodup_suppliedTo (owner : String) (properties : Dictionary String) :
    ((suppliedTo owner properties).getD []).keys.Nodup := by
  have folded (found : Option (Dictionary Supplied)) (distinct : (found.getD []).keys.Nodup) :
      ((properties.foldl (supply owner) found).getD []).keys.Nodup := by
    induction properties generalizing found with
    | nil => exact distinct
    | cons entry rest ih => exact ih _ (nodup_supply distinct entry)
  exact folded none List.nodup_nil

section Supplied

variable {properties : Dictionary String} {owner : String} {settings : Dictionary Supplied}
  (supplied : suppliedTo owner properties = some settings)

include supplied

theorem mem_texts_iff (name : String) :
    name ∈ (texts settings).keys ↔
      ∃ entry, supplier? properties (.client owner name) = some entry := by
  have found := get?_textValues supplied name
  rw [← not_iff_not, ← Dictionary.get?_eq_none_iff, found]
  cases supplier? properties (.client owner name) <;> simp

theorem decodeSetting_texts (setting : Setting) :
    ClientConfig.decodeSetting (texts settings) setting =
      decodeEntry setting.kind setting.kebab
        (supplier? properties (.client owner setting.kebab)) := by
  unfold ClientConfig.decodeSetting
  rw [supplied?_textValues supplied]
  cases supplier? properties (.client owner setting.kebab) with
  | none => rfl
  | some entry =>
      simp only [Option.map_some, decodeEntry]
      cases setting.kind.decode (.text entry.2) <;> rfl

theorem issue?_eq_some_iff (setting : Setting) (issue : Issue) :
    ClientConfig.issue? (texts settings) setting = some issue ↔
      ∃ entry fault, supplier? properties (.client owner setting.kebab) = some entry ∧
        setting.kind.decode (.text entry.2) = .error fault ∧ issue = ⟨[setting.kebab], fault⟩ := by
  rw [← decodeEntry_eq_error_iff, ← decodeSetting_texts supplied, ClientConfig.issue?]
  cases ClientConfig.decodeSetting (texts settings) setting <;> simp

theorem isUsed_iff {name : String} (member : name ∈ (texts settings).keys) :
    ClientConfig.isUsed (texts settings) name = true ↔
      ∃ setting : Setting, setting.kebab = name := by
  obtain ⟨entry, decides⟩ := (mem_texts_iff supplied name).mp member
  unfold ClientConfig.isUsed
  rw [List.any_eq_true]
  constructor
  · rintro ⟨setting, -, used⟩
    rw [supplied?_textValues supplied] at used
    cases found : supplier? properties (.client owner setting.kebab) with
    | none =>
        rw [found] at used
        cases used
    | some other =>
        rw [found] at used
        exact ⟨setting, eq_of_beq used⟩
  · rintro ⟨setting, rfl⟩
    refine ⟨setting, setting.mem_all, ?_⟩
    rw [supplied?_textValues supplied, decides]
    exact beq_self_eq_true _

/-- The faults of a client are those of its settings, each under its name. -/
theorem mem_issues_iff (issue : Issue) :
    issue ∈ ClientConfig.issues (texts settings) ↔
      ∃ name entry fault, supplier? properties (.client owner name) = some entry ∧
        ClientConfig.Refuses name entry.2 fault ∧ issue = ⟨[name], fault⟩ := by
  unfold ClientConfig.issues
  rw [List.mem_append, List.mem_filterMap, List.mem_map]
  constructor
  · rintro (⟨setting, -, found⟩ | ⟨name, listed, rfl⟩)
    · obtain ⟨entry, fault, decides, refused, rfl⟩ := (issue?_eq_some_iff supplied _ _).mp found
      exact ⟨setting.kebab, entry, fault, decides, .undecodable refused, rfl⟩
    · obtain ⟨member, unused⟩ := List.mem_filter.mp listed
      obtain ⟨entry, decides⟩ := (mem_texts_iff supplied name).mp member
      refine ⟨name, entry, .unknownName, decides, .unknown ?_, rfl⟩
      intro setting same
      rw [(isUsed_iff supplied member).mpr ⟨setting, same⟩] at unused
      cases unused
  · rintro ⟨name, entry, fault, decides, refuses, rfl⟩
    cases refuses with
    | undecodable refused =>
        exact .inl ⟨_, Setting.mem_all _,
          (issue?_eq_some_iff supplied _ _).mpr ⟨entry, fault, decides, refused, rfl⟩⟩
    | unknown unknown =>
        have member := (mem_texts_iff supplied name).mpr ⟨entry, decides⟩
        refine .inr ⟨name, List.mem_filter.mpr ⟨member, ?_⟩, rfl⟩
        rw [Bool.not_eq_true', ← Bool.not_eq_true, isUsed_iff supplied member]
        rintro ⟨setting, same⟩
        exact unknown setting same

theorem name_of_issue? {setting : Setting} {name : String}
    (named : (ClientConfig.issue? (texts settings) setting).map (·.path.headD "") = some name) :
    name = setting.kebab ∧ ∃ entry, supplier? properties (.client owner name) = some entry := by
  obtain ⟨issue, found, rfl⟩ := Option.map_eq_some_iff.mp named
  obtain ⟨entry, fault, decides, -, rfl⟩ := (issue?_eq_some_iff supplied _ _).mp found
  exact ⟨rfl, entry, decides⟩

theorem nodup_issues :
    ((ClientConfig.issues (texts settings)).map (·.path.headD "")).Nodup := by
  have distinct : (texts settings).keys.Nodup := by
    have keys := nodup_suppliedTo owner properties
    rw [supplied] at keys
    rw [texts, Dictionary.keys, List.map_map]
    exact keys
  have names : (fun issue : Issue => issue.path.headD "") ∘
      (fun name : String => (⟨[name], .unknownName⟩ : Issue)) = id := rfl
  unfold ClientConfig.issues
  rw [List.map_append, List.nodup_append, List.map_filterMap, List.map_map, names, List.map_id]
  refine ⟨?_, distinct.filter _, ?_⟩
  · have each : Setting.all.Nodup := by decide
    refine each.filterMap ?_
    intro setting other name named same
    rw [(name_of_issue? supplied named).1] at same
    exact Setting.kebab_inj (name_of_issue? supplied same).1
  · rintro name known other listed rfl
    -- an unused name is not that of a setting
    obtain ⟨setting, -, named⟩ := List.mem_filterMap.mp known
    obtain ⟨member, unused⟩ := List.mem_filter.mp listed
    have used := (isUsed_iff supplied member).mpr ⟨setting, (name_of_issue? supplied named).1.symm⟩
    rw [used] at unused
    cases unused

theorem keyOf_eq {name : String} {entry : String × String}
    (decides : supplier? properties (.client owner name) = some entry) :
    ((settings.get? name).map (·.key)).getD name = entry.1 := by
  have found := get?_suppliedTo owner name properties
  rw [supplied, Option.getD_some, decides] at found
  rw [found]
  rfl

/-- The parts of the message about a client report its offences. -/
theorem reports_issues :
    Reports ((ClientConfig.issues (texts settings)).map
      (issuePart fun name => ((settings.get? name).map (·.key)).getD name))
      (ClientOffence properties owner) := by
  constructor
  · rw [List.map_map]
    have keys : ((·.1) ∘ issuePart fun name => ((settings.get? name).map (·.key)).getD name) =
        (fun name => ((settings.get? name).map (·.key)).getD name) ∘ (·.path.headD "") := rfl
    rw [keys, ← List.map_map]
    -- keys of different settings are different, as a key is read in one way only
    refine List.Nodup.map_on ?_ (nodup_issues supplied)
    intro name member other listed same
    obtain ⟨issue, found, rfl⟩ := List.mem_map.mp member
    obtain ⟨second, foundToo, rfl⟩ := List.mem_map.mp listed
    obtain ⟨name, entry, fault, decides, -, rfl⟩ := (mem_issues_iff supplied issue).mp found
    obtain ⟨name', entry', fault', decides', -, rfl⟩ := (mem_issues_iff supplied second).mp foundToo
    rw [List.headD_cons, List.headD_cons, keyOf_eq supplied decides,
      keyOf_eq supplied decides'] at same
    have read := (read_of_supplier? decides).2
    rw [same, (read_of_supplier? decides').2] at read
    exact (TypedKey.client.inj read).2.symm
  · intro part
    rw [List.mem_map]
    constructor
    · rintro ⟨issue, member, rfl⟩
      obtain ⟨name, entry, fault, decides, refuses, rfl⟩ :=
        (mem_issues_iff supplied issue).mp member
      refine ⟨entry, fault, ⟨name, decides, refuses⟩, ?_⟩
      rw [issuePart, List.headD_cons, keyOf_eq supplied decides]
    · rintro ⟨entry, fault, ⟨name, decides, refuses⟩, rfl⟩
      have member := (mem_issues_iff supplied ⟨[name], fault⟩).mpr
        ⟨name, entry, fault, decides, refuses, rfl⟩
      refine ⟨⟨[name], fault⟩, member, ?_⟩
      rw [issuePart, List.headD_cons, keyOf_eq supplied decides]

theorem decodeClient_of_sound
    (sound : ∀ entry fault, ¬ ClientOffence properties owner entry fault) :
    ∃ config, decodeClient owner settings = .ok config := by
  have faultless : ClientConfig.issues (texts settings) = [] := by
    apply List.eq_nil_iff_forall_not_mem.mpr
    intro issue member
    obtain ⟨name, entry, fault, decides, refuses, -⟩ := (mem_issues_iff supplied issue).mp member
    exact sound entry fault ⟨name, decides, refuses⟩
  unfold decodeClient ClientConfig.ofValues
  rw [faultless]
  exact ⟨_, rfl⟩

theorem decodeClient_of_offence {entry : String × String} {fault : DecodeFault}
    (offence : ClientOffence properties owner entry fault) :
    ∃ parts, decodeClient owner settings = .error (.invalidClient owner parts) ∧
      Reports parts (ClientOffence properties owner) := by
  refine ⟨_, ?_, reports_issues supplied⟩
  obtain ⟨name, decides, refuses⟩ := offence
  have member := (mem_issues_iff supplied ⟨[name], fault⟩).mpr
    ⟨name, entry, fault, decides, refuses, rfl⟩
  unfold decodeClient ClientConfig.ofValues
  dsimp only
  cases faults : ClientConfig.issues (texts settings) with
  | nil =>
      rw [faults] at member
      cases member
  | cons first rest => rfl

end Supplied

/-! ### The order of clients -/

/-- The owners in the order of their first appearance, when one more property is read. -/
def addOwner (owners : List String) (entry : String × String) : List String :=
  match TypedKey.parse entry.1 with
  | .client owner _ => if owner ∈ owners then owners else owners ++ [owner]
  | _ => owners

theorem keys_add {collected next : Collected} {key value : String}
    (added : collected.add key value = .ok next) :
    next.clients.keys = addOwner collected.clients.keys (key, value) := by
  unfold Collected.add at added
  unfold addOwner
  cases read : TypedKey.parse key with
  | malformed =>
      rw [read] at added
      cases added
  | client owner setting =>
      rw [read] at added
      cases added
      exact Dictionary.keys_insert _ _ _
  | foreign | lookedUp | everywhere setting =>
      rw [read] at added
      cases added
      rfl

theorem keys_collect {collected final : Collected} {properties : Dictionary String}
    (read : collect collected properties = .ok final) :
    final.clients.keys = properties.foldl addOwner collected.clients.keys := by
  induction properties generalizing collected with
  | nil =>
      cases read
      rfl
  | cons entry rest ih =>
      unfold collect at read
      cases added : collected.add entry.1 entry.2 with
      | error e =>
          rw [added] at read
          cases read
      | ok next =>
          rw [added] at read
          rw [ih read, keys_add added, List.foldl_cons]

theorem prefix_addOwner (owners : List String) (entry : String × String) :
    owners <+: addOwner owners entry := by
  unfold addOwner
  split
  · split
    · exact List.prefix_rfl
    · exact List.prefix_append _ _
  · exact List.prefix_rfl

theorem prefix_foldl_addOwner (owners : List String) (properties : Dictionary String) :
    owners <+: properties.foldl addOwner owners := by
  induction properties generalizing owners with
  | nil => exact List.prefix_rfl
  | cons entry rest ih => exact (prefix_addOwner owners entry).trans (ih _)

theorem mem_addOwner {owners : List String} {entry : String × String} {owner : String}
    (member : owner ∈ addOwner owners entry) :
    owner ∈ owners ∨ ∃ name, TypedKey.parse entry.1 = .client owner name := by
  unfold addOwner at member
  split at member
  next other name read =>
    split at member
    · exact .inl member
    · rcases List.mem_append.mp member with known | new
      · exact .inl known
      · rw [List.mem_singleton.mp new]
        exact .inr ⟨name, read⟩
  · exact .inl member

theorem mem_foldl_addOwner {owners : List String} {properties : Dictionary String} {owner : String}
    (member : owner ∈ properties.foldl addOwner owners) :
    owner ∈ owners ∨ ∃ entry ∈ properties, ∃ name, TypedKey.parse entry.1 = .client owner name := by
  induction properties generalizing owners with
  | nil => exact .inl member
  | cons entry rest ih =>
      rcases ih member with before | ⟨other, listed, read⟩
      · rcases mem_addOwner before with known | read
        · exact .inl known
        · exact .inr ⟨entry, List.mem_cons_self, read⟩
      · exact .inr ⟨other, List.mem_cons_of_mem entry listed, read⟩

def Offends (properties : Dictionary String) (owner : String) : Prop :=
  ∃ entry fault, ClientOffence properties owner entry fault

/-- The first client, in the order in which the clients appear among the keys, that has an offending
property. -/
structure FirstOffender (properties : Dictionary String) (owner : String) : Prop where
  offends : Offends properties owner
  appears : ∃ earlier entry later name, properties = earlier ++ entry :: later ∧
    TypedKey.parse entry.1 = .client owner name ∧
    ∀ other ∈ earlier, ∀ client setting, TypedKey.parse other.1 = .client client setting →
      ¬ Offends properties client

theorem FirstOffender.owners {properties : Dictionary String} {owner : String}
    (first : FirstOffender properties owner) :
    ∃ before after, properties.foldl addOwner [] = before ++ owner :: after ∧
      ∀ client ∈ before, ¬ Offends properties client := by
  obtain ⟨earlier, entry, later, name, order, read, sound⟩ := first.appears
  have soundBefore : ∀ client ∈ earlier.foldl addOwner [], ¬ Offends properties client := by
    intro client member
    rcases mem_foldl_addOwner member with nowhere | ⟨other, listed, setting, readToo⟩
    · cases nowhere
    · exact sound other listed client setting readToo
  have fresh : owner ∉ earlier.foldl addOwner [] :=
    fun member => soundBefore owner member first.offends
  have added : addOwner (earlier.foldl addOwner []) entry =
      earlier.foldl addOwner [] ++ [owner] := by
    simp only [addOwner, read]
    exact if_neg fresh
  obtain ⟨after, rest⟩ := prefix_foldl_addOwner (earlier.foldl addOwner [] ++ [owner]) later
  refine ⟨earlier.foldl addOwner [], after, ?_, soundBefore⟩
  rw [order, List.foldl_append, List.foldl_cons, added, ← rest, List.append_assoc]
  rfl

def OfOffender (properties : Dictionary String) (entry : String × String) : Prop :=
  ∃ client name, TypedKey.parse entry.1 = .client client name ∧ Offends properties client

theorem exists_firstOffender {properties : Dictionary String} {owner : String}
    (offends : Offends properties owner) : ∃ first, FirstOffender properties first := by
  classical
  have present : (properties.find? fun entry => decide (OfOffender properties entry)).isSome := by
    obtain ⟨entry, fault, name, decides, refuses⟩ := offends
    obtain ⟨member, read⟩ := read_of_supplier? decides
    refine List.find?_isSome.mpr ⟨entry, member, decide_eq_true ?_⟩
    exact ⟨owner, name, read, entry, fault, name, decides, refuses⟩
  obtain ⟨entry, found⟩ := Option.isSome_iff_exists.mp present
  rw [List.find?_eq_some_iff_append, decide_eq_true_eq] at found
  obtain ⟨⟨client, name, read, guilty⟩, earlier, later, order, sound⟩ := found
  refine ⟨client, guilty, earlier, entry, later, name, order, read, ?_⟩
  intro other member owner' setting readToo offendsToo
  have innocent := sound other member
  rw [Bool.not_eq_true', decide_eq_false_iff_not] at innocent
  exact innocent ⟨owner', setting, readToo, offendsToo⟩

/-! ### The whole configuration -/

theorem collect_of_wellFormed {properties : Dictionary String}
    (wellFormed : malformed? properties = none) :
    ∃ collected, collect ⟨[], []⟩ properties = .ok collected ∧
      (∀ entry ∈ collected.clients, suppliedTo entry.1 properties = some entry.2) ∧
      (collected.globals.map fun entry => (entry.1, Value.text entry.2)) =
        globalValues properties := by
  cases read : collect ⟨[], []⟩ properties with
  | error e =>
      obtain ⟨entry, found, -⟩ := (collect_eq_error_iff ⟨[], []⟩ properties e).mp read
      cases wellFormed.symm.trans found
  | ok collected =>
      obtain ⟨ofClients, ofGlobals⟩ := collect_eq_ok read
      have empty : (Collected.mk [] []).clients.keys.Nodup := List.nodup_nil
      refine ⟨collected, rfl, ?_, ?_⟩
      · intro entry member
        have found := Dictionary.get?_of_mem (nodup_collect empty read) member
        rw [ofClients] at found
        exact found
      · rw [ofGlobals]
        rfl

theorem decodeClients_of_refused {before after : Dictionary (Dictionary Supplied)} {owner : String}
    {settings : Dictionary Supplied} {e : ConfigError}
    (sound : ∀ entry ∈ before, ∃ config, decodeClient entry.1 entry.2 = .ok config)
    (refused : decodeClient owner settings = .error e) :
    decodeClients (before ++ (owner, settings) :: after) = .error e := by
  induction before with
  | nil => rw [List.nil_append, decodeClients, refused]
  | cons entry rest ih =>
      rw [List.forall_mem_cons] at sound
      obtain ⟨config, decoded⟩ := sound.1
      rw [List.cons_append, decodeClients, decoded, ih sound.2]

theorem not_offends_iff {properties : Dictionary String} {owner : String} :
    ¬ Offends properties owner ↔ ∀ entry fault, ¬ ClientOffence properties owner entry fault := by
  simp only [Offends, not_exists]

/-! ### Global settings -/

theorem decodeGlobal_globalValues (properties : Dictionary String) (setting : GlobalSetting) :
    decodeGlobal (globalValues properties) setting =
      decodeEntry setting.kind setting.kebab (supplier? properties (.everywhere setting)) := by
  unfold decodeGlobal
  rw [suppliedGlobal?_eq]
  cases supplier? properties (.everywhere setting) with
  | none => rfl
  | some entry =>
      simp only [Option.map_some, decodeEntry]
      cases setting.kind.decode (.text entry.2) <;> rfl

theorem globalIssue?_eq_some_iff (properties : Dictionary String) (setting : GlobalSetting)
    (issue : Issue) :
    globalIssue? (globalValues properties) setting = some issue ↔
      ∃ entry fault, supplier? properties (.everywhere setting) = some entry ∧
        setting.kind.decode (.text entry.2) = .error fault ∧ issue = ⟨[setting.kebab], fault⟩ := by
  rw [← decodeEntry_eq_error_iff, ← decodeGlobal_globalValues, globalIssue?]
  cases decodeGlobal (globalValues properties) setting <;> simp

theorem part_of_globalIssue? {properties : Dictionary String} {setting : GlobalSetting}
    {issue : Issue} (found : globalIssue? (globalValues properties) setting = some issue) :
    ∃ entry fault, supplier? properties (.everywhere setting) = some entry ∧
      setting.kind.decode (.text entry.2) = .error fault ∧
      issuePart (fun name => configNamespace ++ "." ++ name) issue = (entry.1, fault.message) := by
  obtain ⟨entry, fault, decides, refused, rfl⟩ := (globalIssue?_eq_some_iff _ _ _).mp found
  have key := (TypedKey.parse_eq_everywhere_iff entry.1 setting).mp (read_of_supplier? decides).2
  refine ⟨entry, fault, decides, refused, ?_⟩
  rw [issuePart, List.headD_cons, key]

theorem reports_globalIssues (properties : Dictionary String) :
    Reports ((GlobalSetting.all.filterMap (globalIssue? (globalValues properties))).map
      (issuePart fun name => configNamespace ++ "." ++ name)) (GlobalOffence properties) := by
  constructor
  · rw [List.map_map, List.map_filterMap]
    have each : GlobalSetting.all.Nodup := by decide
    refine each.filterMap ?_
    intro setting other key keyed same
    obtain ⟨issue, found, rfl⟩ := Option.map_eq_some_iff.mp keyed
    obtain ⟨second, foundToo, keys⟩ := Option.map_eq_some_iff.mp same
    obtain ⟨entry, fault, decides, -, part⟩ := part_of_globalIssue? found
    obtain ⟨entry', fault', decides', -, part'⟩ := part_of_globalIssue? foundToo
    rw [Function.comp_apply, Function.comp_apply, part, part'] at keys
    have read := (read_of_supplier? decides').2
    rw [show entry'.1 = entry.1 from keys, (read_of_supplier? decides).2] at read
    exact TypedKey.everywhere.inj read
  · intro part
    rw [List.mem_map]
    constructor
    · rintro ⟨issue, member, rfl⟩
      obtain ⟨setting, -, found⟩ := List.mem_filterMap.mp member
      obtain ⟨entry, fault, decides, refused, part⟩ := part_of_globalIssue? found
      exact ⟨entry, fault, ⟨setting, decides, refused⟩, part⟩
    · rintro ⟨entry, fault, ⟨setting, decides, refused⟩, rfl⟩
      have found := (globalIssue?_eq_some_iff properties setting _).mpr
        ⟨entry, fault, decides, refused, rfl⟩
      obtain ⟨other, cause, same, again, part⟩ := part_of_globalIssue? found
      cases decides.symm.trans same
      cases refused.symm.trans again
      have listed : setting ∈ GlobalSetting.all := by cases setting <;> decide
      exact ⟨_, List.mem_filterMap.mpr ⟨setting, listed, found⟩, part⟩

section Whole

variable {properties : Dictionary String} (wellFormed : malformed? properties = none)

include wellFormed

theorem ofProperties_of_firstOffender {owner : String} (first : FirstOffender properties owner) :
    ∃ parts, ofProperties properties = .error (.invalidClient owner parts) ∧
      Reports parts (ClientOffence properties owner) := by
  obtain ⟨collected, read, ofClients, -⟩ := collect_of_wellFormed wellFormed
  obtain ⟨front, back, owners, sound⟩ := first.owners
  have keys := (keys_collect read).trans owners
  obtain ⟨before, rest, split, fronts, backs⟩ := List.map_eq_append_iff.mp keys
  obtain ⟨⟨client, settings⟩, after, rfl, same, -⟩ := List.map_eq_cons_iff.mp backs
  cases same
  obtain ⟨entry, fault, offence⟩ := first.offends
  have supplied : suppliedTo client properties = some settings := by
    apply ofClients (client, settings)
    rw [split]
    exact List.mem_append_right _ List.mem_cons_self
  obtain ⟨parts, refused, reports⟩ := decodeClient_of_offence supplied offence
  have passes : ∀ entry ∈ before, ∃ config, decodeClient entry.1 entry.2 = .ok config := by
    intro entry member
    have listed : entry.1 ∈ front := by
      rw [← fronts]
      exact List.mem_map_of_mem member
    apply decodeClient_of_sound (ofClients entry ?_) (not_offends_iff.mp (sound entry.1 listed))
    rw [split]
    exact List.mem_append_left _ member
  refine ⟨parts, ?_, reports⟩
  unfold ofProperties
  rw [read]
  dsimp only
  rw [split, decodeClients_of_refused passes refused]

theorem ofProperties_of_sound_clients (sound : ∀ owner, ¬ Offends properties owner)
    {entry : String × String} {fault : DecodeFault}
    (offence : GlobalOffence properties entry fault) :
    ∃ parts, ofProperties properties = .error (.invalidGlobals parts) ∧
      Reports parts (GlobalOffence properties) := by
  obtain ⟨collected, read, ofClients, ofGlobals⟩ := collect_of_wellFormed wellFormed
  have passes : ∀ entry ∈ collected.clients, ∃ config, decodeClient entry.1 entry.2 = .ok config :=
    fun entry member =>
      decodeClient_of_sound (ofClients entry member) (not_offends_iff.mp (sound entry.1))
  obtain ⟨configs, decoded⟩ := (decodeClients_ok_iff collected.clients).mpr passes
  refine ⟨_, ?_, reports_globalIssues properties⟩
  obtain ⟨setting, decides, refused⟩ := offence
  have found := (globalIssue?_eq_some_iff properties setting _).mpr
    ⟨entry, fault, decides, refused, rfl⟩
  have listed : setting ∈ GlobalSetting.all := by cases setting <;> decide
  have member := List.mem_filterMap.mpr ⟨setting, listed, found⟩
  unfold ofProperties
  rw [read]
  dsimp only
  rw [decoded, ofGlobals]
  dsimp only
  cases faults : GlobalSetting.all.filterMap (globalIssue? (globalValues properties)) with
  | nil =>
      rw [faults] at member
      cases member
  | cons first rest => rfl

end Whole

/-- A configuration without refused keys that has an offending property is refused: for the first
client with one, naming exactly its offending properties, or if no client has one, naming exactly
the offending global settings. -/
theorem ofProperties_reports (properties : Dictionary String)
    (accepted : ∀ entry ∈ properties, ¬ TypedKey.Refused TypedKey.keyEnds entry.1) :
    (∀ owner, FirstOffender properties owner →
      ∃ parts, ofProperties properties = .error (.invalidClient owner parts) ∧
        Reports parts (ClientOffence properties owner)) ∧
    ((∀ owner, ¬ Offends properties owner) →
      ∀ entry fault, GlobalOffence properties entry fault →
        ∃ parts, ofProperties properties = .error (.invalidGlobals parts) ∧
          Reports parts (GlobalOffence properties)) ∧
    (∀ owner, Offends properties owner → ∃ first, FirstOffender properties first) := by
  have wellFormed : malformed? properties = none := by
    rw [malformed?, List.find?_eq_none]
    intro entry member
    rw [decide_eq_true_eq]
    exact fun malformed => accepted entry member ((TypedKey.parse_eq_malformed_iff _).mp malformed)
  refine ⟨fun owner => ofProperties_of_firstOffender wellFormed, ?_,
    fun owner => exists_firstOffender⟩
  intro sound entry fault offence
  exact ofProperties_of_sound_clients wellFormed sound offence

def offending : Dictionary String := [
  ("PATH", "/bin"), ("rest-client.disable-smart-produces", "maybe"),
  ("rest-client.echo.connect-timeout", "soon"), ("rest-client.mail.bogus", "1"),
  ("rest-client.\"echo\".connect-timeout", "later"), ("rest-client.echo.bogus", "2")]

theorem offending_accepted :
    ∀ entry ∈ offending, ¬ TypedKey.Refused TypedKey.keyEnds entry.1 := by
  have wellFormed : ∀ entry ∈ offending, TypedKey.parse entry.1 ≠ .malformed := by decide
  intro entry member refused
  exact wellFormed entry member ((TypedKey.parse_eq_malformed_iff _).mpr refused)

theorem offending_later : ClientOffence offending "echo"
    ("rest-client.\"echo\".connect-timeout", "later") .wholeUnreadable := by
  have refused : Setting.connectTimeout.kind.decode (.text "later") = .error .wholeUnreadable := rfl
  exact ⟨"connect-timeout", by decide, .undecodable refused⟩

theorem offending_unknown :
    ClientOffence offending "echo" ("rest-client.echo.bogus", "2") .unknownName := by
  refine ⟨"bogus", by decide, .unknown ?_⟩
  intro setting
  cases setting <;> decide

def globallyOffending : Dictionary String :=
  offending.take 2

theorem globallyOffending_unowned {entry : String × String} (member : entry ∈ globallyOffending)
    (owner name : String) : TypedKey.parse entry.1 ≠ .client owner name := by
  have foreign : TypedKey.parse "PATH" = .foreign := by decide
  have global : TypedKey.parse "rest-client.disable-smart-produces" =
      .everywhere .disableSmartProduces := by decide
  intro read
  rcases List.mem_pair.mp member with rfl | rfl
  · cases foreign.symm.trans read
  · cases global.symm.trans read

theorem firstOffender_echo : FirstOffender offending "echo" := by
  refine ⟨⟨_, _, offending_unknown⟩, globallyOffending, offending[2], offending.drop 3,
    "connect-timeout", rfl, by decide, ?_⟩
  intro other member client setting read
  exact absurd read (globallyOffending_unowned member client setting)

theorem globallyOffending_disableSmartProduces : GlobalOffence globallyOffending
    ("rest-client.disable-smart-produces", "maybe") .flagUnreadable := by
  have refused : (Kind.flag.decode (.text "maybe") : Except DecodeFault Bool) =
      .error .flagUnreadable := by decide +kernel
  exact ⟨.disableSmartProduces, by decide, refused⟩

theorem ofProperties_reports_offending :
    (∃ parts, ofProperties offending = .error (.invalidClient "echo" parts) ∧
      (parts.map (·.1)).Nodup ∧
      ("rest-client.\"echo\".connect-timeout", DecodeFault.wholeUnreadable.message) ∈ parts ∧
      ("rest-client.echo.bogus", DecodeFault.unknownName.message) ∈ parts) ∧
    ∃ parts, ofProperties globallyOffending = .error (.invalidGlobals parts) ∧
      (parts.map (·.1)).Nodup ∧
      ("rest-client.disable-smart-produces", DecodeFault.flagUnreadable.message) ∈ parts := by
  constructor
  · obtain ⟨parts, refused, reports⟩ :=
      (ofProperties_reports offending offending_accepted).1 "echo" firstOffender_echo
    refine ⟨parts, refused, reports.once, ?_, ?_⟩
    · exact (reports.complete _).mpr ⟨_, _, offending_later, rfl⟩
    · exact (reports.complete _).mpr ⟨_, _, offending_unknown, rfl⟩
  · have accepted : ∀ entry ∈ globallyOffending,
        ¬ TypedKey.Refused TypedKey.keyEnds entry.1 :=
      fun entry member => offending_accepted entry (List.mem_of_mem_take member)
    have sound : ∀ owner, ¬ Offends globallyOffending owner := by
      rintro owner ⟨entry, fault, name, decides, -⟩
      obtain ⟨member, read⟩ := read_of_supplier? decides
      exact globallyOffending_unowned member owner name read
    obtain ⟨parts, refused, reports⟩ :=
      (ofProperties_reports globallyOffending accepted).2.1 sound _ _
        globallyOffending_disableSmartProduces
    exact ⟨parts, refused, reports.once,
      (reports.complete _).mpr ⟨_, _, globallyOffending_disableSmartProduces, rfl⟩⟩

end ConfigRoot

end ClientWiring
