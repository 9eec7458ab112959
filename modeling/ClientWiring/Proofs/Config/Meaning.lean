import ClientWiring.Proofs.Config.Supply
set_option autoImplicit false

/-! What properties mean as a typed configuration, key by key. A client is configured exactly if some
key is read as one of its settings, each setting has the decoded value of the last property that is
read as it, and the order of the properties matters only where two of them are read as the same
setting. -/

namespace ClientWiring

namespace ConfigRoot

/-! ### What a loaded configuration has -/

inductive Decoded (kind : Kind) : Option String → Option kind.Carrier → Prop
  | absent : Decoded kind none none
  | present {text : String} {value : kind.Carrier} (decodes : kind.decode (.text text) = .ok value) :
      Decoded kind (some text) (some value)

/-- A typed configuration that has of each client and of the global settings what the keys of
properties say. -/
structure Means (root : ConfigRoot) (properties : Dictionary String) : Prop where
  configured : ∀ owner, (root.client? owner).isSome ↔
    ∃ entry ∈ properties, ∃ name, TypedKey.parse entry.1 = .client owner name
  setting : ∀ owner config, root.client? owner = some config → ∀ setting : Setting,
    Decoded setting.kind ((supplier? properties (.client owner setting.kebab)).map (·.2))
      (config.get setting)
  encoderMode : Decoded .text
    (properties.get? (configNamespace ++ "." ++ GlobalSetting.multipartPostEncoderMode.kebab))
    root.encoderMode
  disableSmartProduces : Decoded .flag
    (properties.get? (configNamespace ++ "." ++ GlobalSetting.disableSmartProduces.kebab))
    root.disableSmartProduces

/-- No key is read as a field name that is not hyphenated. -/
theorem supplier?_field (properties : Dictionary String) (owner : String) {setting : Setting}
    (unsupplied : supplier? properties (.client owner setting.kebab) = none) :
    supplier? properties (.client owner setting.field) = none := by
  have hyphenated : ∀ setting ∈ Setting.all,
      setting.field = setting.kebab ∨ '_' ∈ setting.field.toList := by decide
  rcases hyphenated setting setting.mem_all with same | underscore
  · rw [same]
    exact unsupplied
  · rw [supplier?_eq_none_iff]
    intro entry _ read
    obtain ⟨isName, -⟩ := (TypedKey.parse_eq_client_iff _ _ _).mp read
    exact absurd (isName.2 '_' underscore) (by decide)

theorem decoded_of_decodeSetting {values : Dictionary Value} {setting : Setting}
    {text : Option String} {value : Option setting.Carrier}
    (supplied : ClientConfig.supplied? values setting = text.map fun s => (setting.kebab, .text s))
    (decoded : ClientConfig.decodeSetting values setting = .ok value) :
    Decoded setting.kind text value := by
  unfold ClientConfig.decodeSetting at decoded
  rw [supplied] at decoded
  cases text with
  | none =>
      cases decoded
      exact .absent
  | some s =>
      dsimp only [Option.map_some] at decoded
      split at decoded
      next found decodes =>
        cases decoded
        exact .present decodes
      · cases decoded

section Supplied

variable {properties : Dictionary String} {owner : String} {settings : Dictionary Supplied}
  (supplied : suppliedTo owner properties = some settings)

include supplied

theorem get?_textValues (name : String) :
    Dictionary.get? (settings.map fun entry => (entry.1, Value.text entry.2.value)) name =
      ((supplier? properties (.client owner name)).map (·.2)).map Value.text := by
  have found := get?_suppliedTo owner name properties
  rw [supplied, Option.getD_some] at found
  rw [Dictionary.get?_map settings (fun item => Value.text item.value), found, Option.map_map,
    Option.map_map]
  rfl

/-- A setting of a client is supplied under its hyphenated name, with the text of the property that
decides it. -/
theorem supplied?_textValues (setting : Setting) :
    ClientConfig.supplied? (settings.map fun entry => (entry.1, .text entry.2.value)) setting =
      ((supplier? properties (.client owner setting.kebab)).map (·.2)).map fun s =>
        (setting.kebab, .text s) := by
  unfold ClientConfig.supplied?
  rw [get?_textValues supplied, get?_textValues supplied]
  cases unsupplied : supplier? properties (.client owner setting.kebab) with
  | some entry => rfl
  | none =>
      rw [supplier?_field properties owner unsupplied]
      rfl

/-- A setting of a client has the decoded value of the property that decides it. -/
theorem decoded_of_decodeClient {config : ClientConfig}
    (decoded : decodeClient owner settings = .ok config) (setting : Setting) :
    Decoded setting.kind ((supplier? properties (.client owner setting.kebab)).map (·.2))
      (config.get setting) := by
  rw [decodeClient_eq_ok_iff] at decoded
  exact decoded_of_decodeSetting (supplied?_textValues supplied setting)
    (ClientConfig.decodeSetting_of_ofValues decoded setting)

end Supplied

/-- Where keys are distinct, the property under the key of a global setting decides it. -/
theorem supplier?_everywhere {properties : Dictionary String} (distinct : properties.keys.Nodup)
    (setting : GlobalSetting) :
    (supplier? properties (.everywhere setting)).map (·.2) =
      properties.get? (configNamespace ++ "." ++ setting.kebab) := by
  cases found : supplier? properties (.everywhere setting) with
  | none =>
      symm
      rw [Option.map_none, Dictionary.get?_eq_none_iff]
      intro listed
      obtain ⟨entry, member, same⟩ := List.mem_map.mp listed
      exact (supplier?_eq_none_iff _ _).mp found entry member
        ((TypedKey.parse_eq_everywhere_iff _ _).mpr same)
  | some entry =>
      obtain ⟨member, read⟩ := read_of_supplier? found
      rw [← (TypedKey.parse_eq_everywhere_iff _ _).mp read, Dictionary.get?_of_mem distinct member]
      rfl

theorem get?_globalValues (properties : Dictionary String) (setting : GlobalSetting) :
    (globalValues properties).get? setting.kebab =
      ((supplier? properties (.everywhere setting)).map (·.2)).map Value.text := by
  rw [globalValues, Dictionary.get?_map (suppliedGlobals properties) Value.text,
    get?_suppliedGlobals]

theorem get?_globalValues_field (properties : Dictionary String) (setting : GlobalSetting) :
    (globalValues properties).get? setting.field = none := by
  have folded (globals : Dictionary String) :
      (properties.foldl supplyGlobal globals).get? setting.field =
        globals.get? setting.field := by
    induction properties generalizing globals with
    | nil => rfl
    | cons entry rest ih =>
        rw [List.foldl_cons, ih]
        unfold supplyGlobal
        split
        next other read =>
          have hyphenated : other.kebab ≠ setting.field := by
            cases other <;> cases setting <;> decide
          rw [Dictionary.get?_insert, if_neg hyphenated]
        · rfl
  rw [globalValues, Dictionary.get?_map (suppliedGlobals properties) Value.text, suppliedGlobals,
    folded]
  rfl

theorem suppliedGlobal?_eq (properties : Dictionary String) (setting : GlobalSetting) :
    suppliedGlobal? (globalValues properties) setting =
      ((supplier? properties (.everywhere setting)).map (·.2)).map fun s =>
        (setting.kebab, .text s) := by
  unfold suppliedGlobal?
  rw [get?_globalValues, get?_globalValues_field]
  cases supplier? properties (.everywhere setting) <;> rfl

theorem decoded_of_decodeGlobal {properties : Dictionary String} {setting : GlobalSetting}
    {value : Option setting.kind.Carrier}
    (decoded : decodeGlobal (globalValues properties) setting = .ok value) :
    Decoded setting.kind ((supplier? properties (.everywhere setting)).map (·.2)) value := by
  unfold decodeGlobal at decoded
  rw [suppliedGlobal?_eq] at decoded
  cases text : (supplier? properties (.everywhere setting)).map (·.2) with
  | none =>
      rw [text] at decoded
      cases decoded
      exact .absent
  | some s =>
      rw [text] at decoded
      dsimp only [Option.map_some] at decoded
      split at decoded
      next found decodes =>
        cases decoded
        exact .present decodes
      · cases decoded

section Loaded

variable {properties : Dictionary String} {root : ConfigRoot}
  (loaded : ofProperties properties = .ok root)

include loaded

theorem client?_eq_some_iff (owner : String) (config : ClientConfig) :
    root.client? owner = some config ↔
      ∃ settings, suppliedTo owner properties = some settings ∧
        decodeClient owner settings = .ok config := by
  rw [(ofProperties_eq_ok loaded).1 owner, Option.bind_eq_some_iff]
  refine exists_congr fun settings => and_congr_right fun _ => ?_
  cases decodeClient owner settings <;> simp [Except.toOption]

theorem client?_isSome_iff (owner : String) :
    (root.client? owner).isSome ↔ (suppliedTo owner properties).isSome := by
  have loads := (ofProperties_ok_iff properties).mp ⟨root, loaded⟩
  rw [Option.isSome_iff_exists, Option.isSome_iff_exists]
  constructor
  · rintro ⟨config, found⟩
    obtain ⟨settings, supplied, -⟩ := (client?_eq_some_iff loaded owner config).mp found
    exact ⟨settings, supplied⟩
  · rintro ⟨settings, supplied⟩
    obtain ⟨config, decoded⟩ := loads.clients owner settings supplied
    exact ⟨config, (client?_eq_some_iff loaded owner config).mpr ⟨settings, supplied, decoded⟩⟩

theorem decodeGlobal_of_loaded :
    decodeGlobal (globalValues properties) .multipartPostEncoderMode = .ok root.encoderMode ∧
      decodeGlobal (globalValues properties) .disableSmartProduces =
        .ok root.disableSmartProduces := by
  have loads := (ofProperties_ok_iff properties).mp ⟨root, loaded⟩
  obtain ⟨-, clients, rfl⟩ := ofProperties_eq_ok loaded
  obtain ⟨mode, modeDecoded⟩ := loads.globals .multipartPostEncoderMode
  obtain ⟨flag, flagDecoded⟩ := loads.globals .disableSmartProduces
  constructor
  · rw [modeDecoded]
    exact congrArg Except.ok (congrArg (fun r => (Except.toOption r).join) modeDecoded).symm
  · rw [flagDecoded]
    exact congrArg Except.ok (congrArg (fun r => (Except.toOption r).join) flagDecoded).symm

theorem decoded_of_loaded {owner : String} {config : ClientConfig}
    (found : root.client? owner = some config) (setting : Setting) :
    Decoded setting.kind ((supplier? properties (.client owner setting.kebab)).map (·.2))
      (config.get setting) := by
  obtain ⟨settings, supplied, decoded⟩ := (client?_eq_some_iff loaded owner config).mp found
  exact decoded_of_decodeClient supplied decoded setting

/-- What is loaded from properties with distinct keys is what the properties mean. -/
theorem means_of_loaded (distinct : properties.keys.Nodup) : root.Means properties where
  configured owner := by rw [client?_isSome_iff loaded, suppliedTo_isSome_iff]
  setting _ _ found setting := decoded_of_loaded loaded found setting
  encoderMode := by
    rw [← supplier?_everywhere distinct]
    exact decoded_of_decodeGlobal (decodeGlobal_of_loaded loaded).1
  disableSmartProduces := by
    rw [← supplier?_everywhere distinct]
    exact decoded_of_decodeGlobal (decodeGlobal_of_loaded loaded).2

end Loaded

/-! ### What matters -/

structure Alike (root other : ConfigRoot) : Prop where
  client? : ∀ owner, root.client? owner = other.client? owner
  encoderMode : root.encoderMode = other.encoderMode
  disableSmartProduces : root.disableSmartProduces = other.disableSmartProduces

structure SameSuppliers (properties other : Dictionary String) : Prop where
  clients : ∀ owner name,
    supplier? properties (.client owner name) = supplier? other (.client owner name)
  globals : ∀ setting,
    supplier? properties (.everywhere setting) = supplier? other (.everywhere setting)

namespace SameSuppliers

variable {properties other : Dictionary String}

theorem symm (same : SameSuppliers properties other) : SameSuppliers other properties :=
  ⟨fun owner name => (same.clients owner name).symm, fun setting => (same.globals setting).symm⟩

theorem suppliedTo_isSome (same : SameSuppliers properties other) (owner : String) :
    (suppliedTo owner properties).isSome ↔ (suppliedTo owner other).isSome := by
  rw [suppliedTo_isSome_iff_supplier?, suppliedTo_isSome_iff_supplier?]
  simp only [same.clients]

theorem client_decodes (same : SameSuppliers properties other) {owner : String}
    {config : ClientConfig} (decodes : ∃ settings, suppliedTo owner properties = some settings ∧
      decodeClient owner settings = .ok config) :
    ∃ settings, suppliedTo owner other = some settings ∧
      decodeClient owner settings = .ok config := by
  obtain ⟨settings, supplied, decoded⟩ := decodes
  have present := (same.suppliedTo_isSome owner).mp (by rw [supplied]; rfl)
  obtain ⟨found, alsoSupplied⟩ := Option.isSome_iff_exists.mp present
  refine ⟨found, alsoSupplied, decodeClient_congr ?_ decoded⟩
  intro name
  have alike := get?_suppliedTo owner name properties
  rwa [same.clients, ← get?_suppliedTo, supplied, alsoSupplied] at alike

theorem decodeGlobal_eq (same : SameSuppliers properties other) (setting : GlobalSetting) :
    decodeGlobal (globalValues properties) setting = decodeGlobal (globalValues other) setting := by
  unfold decodeGlobal
  rw [suppliedGlobal?_eq, suppliedGlobal?_eq, same.globals]

theorem loads (same : SameSuppliers properties other) (wellFormed : malformed? other = none)
    (loads : Loads properties) : Loads other := by
  refine ⟨wellFormed, ?_, ?_⟩
  · intro owner settings supplied
    have present := (same.suppliedTo_isSome owner).mpr (by rw [supplied]; rfl)
    obtain ⟨found, alsoSupplied⟩ := Option.isSome_iff_exists.mp present
    obtain ⟨config, decoded⟩ := loads.clients owner found alsoSupplied
    obtain ⟨_, again, decodes⟩ := same.client_decodes ⟨found, alsoSupplied, decoded⟩
    cases supplied.symm.trans again
    exact ⟨config, decodes⟩
  · intro setting
    rw [← same.decodeGlobal_eq]
    exact loads.globals setting

/-- Nothing matters to what is loaded but the property that decides each setting, as long as the
keys are well formed. -/
theorem loaded (same : SameSuppliers properties other) (wellFormed : malformed? other = none)
    {root : ConfigRoot} (loaded : ofProperties properties = .ok root) :
    ∃ found, ofProperties other = .ok found ∧ found.Alike root := by
  have loads := (ofProperties_ok_iff properties).mp ⟨root, loaded⟩
  obtain ⟨found, otherLoaded⟩ := (ofProperties_ok_iff other).mpr (same.loads wellFormed loads)
  obtain ⟨mode, flag⟩ := decodeGlobal_of_loaded loaded
  obtain ⟨otherMode, otherFlag⟩ := decodeGlobal_of_loaded otherLoaded
  refine ⟨found, otherLoaded, ?_, ?_, ?_⟩
  · intro owner
    apply Option.ext
    intro config
    rw [client?_eq_some_iff otherLoaded, client?_eq_some_iff loaded]
    exact ⟨same.symm.client_decodes, same.client_decodes⟩
  · rw [← same.decodeGlobal_eq, mode] at otherMode
    exact (Except.ok.inj otherMode).symm
  · rw [← same.decodeGlobal_eq, flag] at otherFlag
    exact (Except.ok.inj otherFlag).symm

end SameSuppliers

/-! ### What does not matter -/

/-- A property that can matter: its key stands in the namespace, and is not the one that is looked
up elsewhere. -/
def Weighs (entry : String × String) : Prop :=
  TypedKey.InNamespace entry.1 ∧ entry.1 ≠ configNamespace ++ ".max-redirects"

instance (entry : String × String) : Decidable (Weighs entry) :=
  inferInstanceAs (Decidable (_ ∧ _))

theorem add_of_not_weighs {key value : String} (idle : ¬ Weighs (key, value))
    (collected : Collected) : collected.add key value = .ok collected := by
  unfold Collected.add
  rcases not_and_or.mp idle with outside | elsewhere
  · rw [(TypedKey.parse_eq_foreign_iff key).mpr outside]
  · have listed : "max-redirects" ∈ TypedKey.lookedUpNames := List.mem_cons_self
    rw [(TypedKey.parse_eq_lookedUp_iff key).mpr ⟨_, listed, not_not.mp elsewhere⟩]

theorem collect_filter (collected : Collected) (properties : Dictionary String) :
    collect collected (properties.filter fun entry => decide (Weighs entry)) =
      collect collected properties := by
  induction properties generalizing collected with
  | nil => rfl
  | cons entry rest ih =>
      by_cases weighs : Weighs entry
      · rw [List.filter_cons_of_pos (by simpa using weighs), collect, collect]
        cases collected.add entry.1 entry.2 with
        | error e => rfl
        | ok next => exact ih next
      · rw [List.filter_cons_of_neg (by simpa using weighs), ih, collect,
          add_of_not_weighs weighs]

theorem ofProperties_congr {properties other : Dictionary String}
    (same : other.filter (fun entry => decide (Weighs entry)) =
      properties.filter fun entry => decide (Weighs entry)) :
    ofProperties other = ofProperties properties := by
  unfold ofProperties
  rw [← collect_filter _ other, same, collect_filter]

/-- Properties of which no two keys are read as the same setting of a client. -/
def Unambiguous (properties : Dictionary String) : Prop :=
  ∀ owner name, ∀ entry ∈ properties, ∀ other ∈ properties,
    TypedKey.parse entry.1 = .client owner name → TypedKey.parse other.1 = .client owner name →
    entry.1 = other.1

theorem loaded_of_perm {properties other : Dictionary String} {root : ConfigRoot}
    (distinct : properties.keys.Nodup) (loaded : ofProperties properties = .ok root)
    (reordered : other.Perm properties) (unambiguous : Unambiguous properties) :
    ∃ found, ofProperties other = .ok found ∧ found.Alike root := by
  have same : SameSuppliers properties other := by
    refine ⟨?_, ?_⟩
    · intro owner name
      refine (supplier?_perm reordered ?_).symm
      intro entry member second listed read readToo
      exact Dictionary.entry_eq distinct member listed
        (unambiguous owner name entry member second listed read readToo)
    · intro setting
      refine (supplier?_perm reordered ?_).symm
      intro entry member second listed read readToo
      rw [TypedKey.parse_eq_everywhere_iff] at read readToo
      exact Dictionary.entry_eq distinct member listed (read.trans readToo.symm)
  refine same.loaded ?_ loaded
  have wellFormed := ((ofProperties_ok_iff properties).mp ⟨root, loaded⟩).wellFormed
  unfold malformed? at wellFormed ⊢
  rw [List.find?_eq_none] at wellFormed ⊢
  intro entry member
  exact wellFormed entry (reordered.mem_iff.mp member)

/-- What is loaded from properties with distinct keys is what the keys mean. Keys outside the
namespace, and the one that is looked up elsewhere, have no influence; and where no two keys are read
as the same setting, neither has the order. -/
theorem ofProperties_means (properties : Dictionary String) (root : ConfigRoot)
    (distinct : properties.keys.Nodup) (loaded : ofProperties properties = .ok root) :
    root.Means properties ∧
    (∀ other : Dictionary String,
      other.filter (fun entry => decide (Weighs entry)) =
        properties.filter (fun entry => decide (Weighs entry)) →
      ofProperties other = .ok root) ∧
    (Unambiguous properties → ∀ other : Dictionary String, other.Perm properties →
      ∃ found, ofProperties other = .ok found ∧ found.Alike root) := by
  refine ⟨means_of_loaded loaded distinct, ?_, ?_⟩
  · intro other same
    rw [ofProperties_congr same, loaded]
  · intro unambiguous other reordered
    exact loaded_of_perm distinct loaded reordered unambiguous

def bothSpellings : Dictionary String := [
  ("rest-client.echo.url", "http://first"), ("rest-client.disable-smart-produces", "true"),
  ("rest-client.\"mail.box\".read-timeout", "20"), ("rest-client.max-redirects", "many"),
  ("rest-client.\"echo\".url", "http://second"), ("PATH", "/bin")]

theorem ofProperties_means_bothSpellings :
    bothSpellings.keys.Nodup ∧ ∃ root, ofProperties bothSpellings = .ok root ∧
      root.Means bothSpellings ∧ ofProperties (bothSpellings.erase "PATH") = .ok root := by
  have distinct : bothSpellings.keys.Nodup := by decide
  have loadable : (ofProperties bothSpellings).toBool = true := by decide +kernel
  cases loaded : ofProperties bothSpellings with
  | error e =>
      rw [loaded] at loadable
      cases loadable
  | ok root =>
      obtain ⟨means, congr, -⟩ := ofProperties_means bothSpellings root distinct loaded
      exact ⟨distinct, root, rfl, means, congr _ (by decide)⟩

end ConfigRoot

end ClientWiring
