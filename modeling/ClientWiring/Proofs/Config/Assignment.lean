import Mathlib.Data.List.Find
import Mathlib.Data.List.Nodup
import ClientWiring.Config.Legacy
import ClientWiring.Proofs.Config.Keys
import ClientWiring.Proofs.Config.Root
set_option autoImplicit false

/-! Assignments of texts to the settings that both sources have. An assignment is written as typed
keys or as legacy keys of an owner, and both sources read it back setting by setting. -/

namespace ClientWiring

namespace Setting

theorem kebab_inj {setting other : Setting} (same : setting.kebab = other.kebab) :
    setting = other := by
  have found := ofKebab?_kebab setting
  rw [same, ofKebab?_kebab] at found
  exact (Option.some.inj found).symm

theorem kebab_eq_field {setting other : Setting} (same : setting.kebab = other.field) :
    setting = other := by
  have distinct : ∀ setting ∈ all, ∀ other ∈ all, setting.kebab = other.field → setting = other := by
    decide
  exact distinct setting setting.mem_all other other.mem_all same

end Setting

/-- A setting that both sources have, with its legacy name. -/
structure SharedSetting where
  setting : Setting
  legacyName : String
  named : setting.legacyName? = some legacyName

/-- Texts for some of the shared settings, each once. The texts are not blank and have no blanks
around them. -/
structure Assignment where
  entries : List (SharedSetting × String)
  distinct : (entries.map (·.1.setting)).Nodup
  filled : ∀ entry ∈ entries, Text.allBlank entry.2 = false
  trimmed : ∀ entry ∈ entries, Text.trim entry.2 = entry.2

namespace Assignment

def text? (assignment : Assignment) (setting : Setting) : Option String :=
  (assignment.entries.find? fun entry => entry.1.setting == setting).map (·.2)

def typedProperties (assignment : Assignment) (owner : String) : Dictionary String :=
  assignment.entries.map fun entry => (typedKey owner entry.1.setting.field, entry.2)

def legacyProperties (assignment : Assignment) (owner : String) : Dictionary String :=
  assignment.entries.map fun entry => (legacyKey owner entry.1.legacyName, entry.2)

def values (assignment : Assignment) : Dictionary Value :=
  assignment.entries.map fun entry => (entry.1.setting.kebab, .text entry.2)

/-- Where a name belongs to one setting, it is looked up as that setting is. -/
theorem get?_map_entries {α : Type} (assignment : Assignment) (nameOf : SharedSetting → String)
    (valueOf : String → α) {key : String} {setting : Setting}
    (same : ∀ shared : SharedSetting, nameOf shared = key ↔ shared.setting = setting) :
    Dictionary.get? (assignment.entries.map fun entry => (nameOf entry.1, valueOf entry.2)) key =
      (assignment.text? setting).map valueOf := by
  unfold Dictionary.get? text?
  rw [List.find?_map, Option.map_map, Option.map_map]
  have chosen : assignment.entries.find? ((fun entry => entry.1 == key) ∘
      fun entry => (nameOf entry.1, valueOf entry.2)) =
      assignment.entries.find? fun entry => entry.1.setting == setting := by
    refine List.find?_congr fun entry _ => ?_
    rw [Function.comp_apply, Bool.eq_iff_iff, beq_iff_eq, beq_iff_eq]
    exact same entry.1
  rw [chosen]
  rfl

theorem text?_eq_none_iff (assignment : Assignment) (setting : Setting) :
    assignment.text? setting = none ↔
      ∀ entry ∈ assignment.entries, entry.1.setting ≠ setting := by
  unfold text?
  simp only [Option.map_eq_none_iff, List.find?_eq_none, beq_iff_eq, ne_eq]

theorem text?_of_unnamed (assignment : Assignment) {setting : Setting}
    (unnamed : setting.legacyName? = none) : assignment.text? setting = none := by
  rw [text?_eq_none_iff]
  rintro entry - rfl
  cases entry.1.named.symm.trans unnamed

theorem mem_of_text? (assignment : Assignment) {setting : Setting} {text : String}
    (found : assignment.text? setting = some text) :
    ∃ entry ∈ assignment.entries, entry.2 = text := by
  obtain ⟨entry, chosen, rfl⟩ := Option.map_eq_some_iff.mp found
  exact ⟨entry, List.mem_of_find?_eq_some chosen, rfl⟩

/-! ### Reading typed keys -/

theorem keys_values (assignment : Assignment) :
    assignment.values.keys = assignment.entries.map (·.1.setting.kebab) := by
  unfold values Dictionary.keys
  rw [List.map_map]
  rfl

theorem get?_values (assignment : Assignment) (setting : Setting) :
    assignment.values.get? setting.kebab = (assignment.text? setting).map Value.text := by
  refine assignment.get?_map_entries (fun shared => shared.setting.kebab) Value.text ?_
  intro shared
  exact ⟨Setting.kebab_inj, fun same => same ▸ rfl⟩

theorem supplied?_values (assignment : Assignment) (setting : Setting) :
    ClientConfig.supplied? assignment.values setting =
      (assignment.text? setting).map fun text => (setting.kebab, .text text) := by
  unfold ClientConfig.supplied?
  rw [get?_values]
  cases found : assignment.text? setting with
  | some text => rfl
  | none =>
      have absent : assignment.values.get? setting.field = none := by
        rw [Dictionary.get?_eq_none_iff, keys_values]
        intro listed
        obtain ⟨entry, member, same⟩ := List.mem_map.mp listed
        exact (assignment.text?_eq_none_iff setting).mp found entry member
          (Setting.kebab_eq_field same)
      simp only [Option.map_none, absent]

theorem isUsed_values (assignment : Assignment) {name : String}
    (member : name ∈ assignment.values.keys) :
    ClientConfig.isUsed assignment.values name = true := by
  rw [keys_values] at member
  obtain ⟨entry, given, rfl⟩ := List.mem_map.mp member
  unfold ClientConfig.isUsed
  rw [List.any_eq_true]
  refine ⟨entry.1.setting, entry.1.setting.mem_all, ?_⟩
  rw [supplied?_values]
  cases found : assignment.text? entry.1.setting with
  | none => exact absurd rfl ((assignment.text?_eq_none_iff _).mp found entry given)
  | some text => exact beq_self_eq_true _

/-- Values that are refused as a whole are refused at some setting. -/
theorem malformed_of_refused (assignment : Assignment) {issues : List Issue}
    (refused : ClientConfig.ofValues assignment.values = .error issues) :
    ∃ setting issue, ClientConfig.decodeSetting assignment.values setting = .error issue := by
  by_contra sound
  push Not at sound
  have decodable (setting : Setting) :
      ∃ value, ClientConfig.decodeSetting assignment.values setting = .ok value := by
    cases decoded : ClientConfig.decodeSetting assignment.values setting with
    | ok value => exact ⟨value, rfl⟩
    | error issue => exact absurd decoded (sound setting issue)
  obtain ⟨config, accepted⟩ :=
    ClientConfig.ofValues_of_decodable decodable fun _ member => assignment.isUsed_values member
  cases refused.symm.trans accepted

/-! ### Loading typed keys -/

def supplies (assignment : Assignment) (owner : String) : Dictionary ConfigRoot.Supplied :=
  assignment.entries.map fun entry =>
    (entry.1.setting.kebab, ⟨typedKey owner entry.1.setting.field, entry.2⟩)

theorem decodeClient_supplies (assignment : Assignment) (owner : String) :
    ∃ parts : List Issue → List (String × String),
      ConfigRoot.decodeClient owner (assignment.supplies owner) =
        (ClientConfig.ofValues assignment.values).mapError fun issues =>
          .invalidClient owner (parts issues) := by
  have supplied : ((assignment.supplies owner).map fun entry => (entry.1, Value.text entry.2.value)) =
      assignment.values := by
    unfold supplies values
    rw [List.map_map]
    rfl
  unfold ConfigRoot.decodeClient
  dsimp only
  rw [supplied]
  refine ⟨fun issues => issues.map (ConfigRoot.issuePart fun name =>
    (((assignment.supplies owner).get? name).map (·.key)).getD name), ?_⟩
  cases ClientConfig.ofValues assignment.values <;> rfl

section Loading

variable {owner : String} (nonempty : owner ≠ "") (unquoted : '"' ∉ owner.toList)

include nonempty unquoted

theorem supply_typedKey (found : Option (Dictionary ConfigRoot.Supplied)) (setting : Setting)
    (text : String) :
    ConfigRoot.supply owner found (typedKey owner setting.field, text) =
      some ((found.getD []).insert setting.kebab ⟨typedKey owner setting.field, text⟩) := by
  unfold ConfigRoot.supply
  dsimp only
  rw [TypedKey.parse_typedKey nonempty unquoted setting]
  exact if_pos rfl

theorem foldl_supply (entries : List (SharedSetting × String))
    (found : Dictionary ConfigRoot.Supplied)
    (distinct : (found.keys ++ entries.map (·.1.setting.kebab)).Nodup) :
    (entries.map fun entry => (typedKey owner entry.1.setting.field, entry.2)).foldl
        (ConfigRoot.supply owner) (some found) =
      some (found ++ entries.map fun entry =>
        (entry.1.setting.kebab, ⟨typedKey owner entry.1.setting.field, entry.2⟩)) := by
  induction entries generalizing found with
  | nil => simp
  | cons entry rest ih =>
      rw [List.map_cons] at distinct
      -- no setting comes twice, so every name is new and goes to the end
      have fresh : entry.1.setting.kebab ∉ found.keys := by
        intro present
        exact (List.nodup_append.mp distinct).2.2 _ present _ List.mem_cons_self rfl
      rw [List.map_cons, List.foldl_cons, supply_typedKey nonempty unquoted, Option.getD_some,
        Dictionary.insert_of_not_mem fresh, ih, List.append_assoc]
      · rfl
      · simpa [Dictionary.keys, List.append_assoc] using distinct

theorem suppliedTo_typedProperties (assignment : Assignment) :
    ConfigRoot.suppliedTo owner (assignment.typedProperties owner) =
      if assignment.entries.isEmpty then none else some (assignment.supplies owner) := by
  unfold ConfigRoot.suppliedTo typedProperties supplies
  have distinct : (assignment.entries.map (·.1.setting.kebab)).Nodup := by
    have injective : Function.Injective Setting.kebab := fun _ _ => Setting.kebab_inj
    have mapped := List.Nodup.map injective assignment.distinct
    rwa [List.map_map] at mapped
  cases given : assignment.entries with
  | nil => rfl
  | cons entry rest =>
      rw [given] at distinct
      have folded := foldl_supply nonempty unquoted (entry :: rest) [] distinct
      rw [List.map_cons, List.foldl_cons, supply_typedKey nonempty unquoted] at folded ⊢
      exact folded

theorem ofProperties_typedProperties (assignment : Assignment) :
    ConfigRoot.ofProperties (assignment.typedProperties owner) =
      if assignment.entries.isEmpty then .ok .empty
      else (ConfigRoot.decodeClient owner (assignment.supplies owner)).map fun config =>
        ⟨[(owner, config)], none, none⟩ := by
  have owned : ∀ entry ∈ assignment.typedProperties owner,
      ∃ setting, TypedKey.parse entry.1 = .client owner setting := by
    intro entry member
    obtain ⟨source, -, rfl⟩ := List.mem_map.mp member
    exact ⟨_, TypedKey.parse_typedKey nonempty unquoted source.1.setting⟩
  rw [ConfigRoot.ofProperties_owned owned, suppliedTo_typedProperties nonempty unquoted]
  cases assignment.entries.isEmpty <;> rfl

theorem ofProperties_of_accepted (assignment : Assignment) {config : ClientConfig}
    (accepted : ClientConfig.ofValues assignment.values = .ok config) :
    ∃ root, ConfigRoot.ofProperties (assignment.typedProperties owner) = .ok root ∧
      root.encoderMode = none ∧
      ∀ setting, ((root.client? owner).bind fun config => config.get setting) =
        config.get setting := by
  obtain ⟨parts, decoded⟩ := assignment.decodeClient_supplies owner
  rw [ofProperties_typedProperties nonempty unquoted, decoded, accepted]
  cases given : assignment.entries with
  | nil =>
      refine ⟨_, rfl, rfl, ?_⟩
      intro setting
      have absent := ClientConfig.decodeSetting_of_ofValues accepted setting
      unfold values at absent
      rw [given] at absent
      exact Except.ok.inj absent
  | cons entry rest =>
      refine ⟨_, rfl, rfl, ?_⟩
      intro setting
      have own : (⟨[(owner, config)], none, none⟩ : ConfigRoot).client? owner = some config := by
        unfold ConfigRoot.client?
        rw [Dictionary.get?_cons, if_pos rfl]
      rw [own]
      rfl

theorem ofProperties_of_refused (assignment : Assignment) {issues : List Issue}
    (refused : ClientConfig.ofValues assignment.values = .error issues) :
    ∃ parts, ConfigRoot.ofProperties (assignment.typedProperties owner) =
      .error (.invalidClient owner parts) := by
  obtain ⟨parts, decoded⟩ := assignment.decodeClient_supplies owner
  rw [ofProperties_typedProperties nonempty unquoted, decoded, refused]
  cases given : assignment.entries with
  | nil =>
      obtain ⟨setting, issue, malformed⟩ := assignment.malformed_of_refused refused
      unfold values at malformed
      rw [given] at malformed
      cases malformed
  | cons entry rest => exact ⟨_, rfl⟩

end Loading

/-! ### Reading legacy keys -/

theorem get?_legacyProperties (assignment : Assignment) (owner : String) {setting : Setting}
    {name : String} (named : setting.legacyName? = some name) :
    (assignment.legacyProperties owner).get? (legacyKey owner name) =
      assignment.text? setting := by
  have same (shared : SharedSetting) :
      legacyKey owner shared.legacyName = legacyKey owner name ↔ shared.setting = setting := by
    constructor
    · intro sameKey
      exact (legacyKey_inj shared.named named sameKey).2
    · rintro rfl
      cases shared.named.symm.trans named
      rfl
  exact (assignment.get?_map_entries _ id same).trans Option.map_id_apply

theorem get?_legacyProperties_other (assignment : Assignment) {owner key : String}
    (other : ∀ shared : SharedSetting, key ≠ legacyKey owner shared.legacyName) :
    (assignment.legacyProperties owner).get? key = none := by
  rw [Dictionary.get?_eq_none_iff]
  intro listed
  obtain ⟨pair, member, rfl⟩ := List.mem_map.mp listed
  obtain ⟨entry, -, rfl⟩ := List.mem_map.mp member
  exact other _ rfl

end Assignment

end ClientWiring
