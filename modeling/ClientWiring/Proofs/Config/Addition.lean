import ClientWiring.Proofs.Config.Assignment
import ClientWiring.Proofs.Config.Meaning
set_option autoImplicit false

/-! Properties and one more. Where the key of the new one is read as a setting of a client and its
text can be decoded, they are loaded if the others are: the setting has the decoded value, and nothing
else changes. A property with a typed key, alone, is a configuration of this one setting. -/

namespace ClientWiring

theorem typedKey_inj {owner owner' : String} {setting other : Setting} (nonempty : owner ≠ "")
    (unquoted : '"' ∉ owner.toList) (nonempty' : owner' ≠ "") (unquoted' : '"' ∉ owner'.toList)
    (same : typedKey owner setting.field = typedKey owner' other.field) :
    owner = owner' ∧ setting = other := by
  have read := TypedKey.parse_typedKey nonempty unquoted setting
  rw [same, TypedKey.parse_typedKey nonempty' unquoted' other, TypedKey.client.injEq] at read
  exact ⟨read.1.symm, Setting.kebab_inj read.2.symm⟩

namespace ConfigRoot

/-! ### What a client is supplied with -/

theorem supplier?_concat (properties : Dictionary String) (entry : String × String)
    (reading : TypedKey) :
    supplier? (properties ++ [entry]) reading =
      if TypedKey.parse entry.1 = reading then some entry else supplier? properties reading := by
  rw [supplier?_append, supplier?_cons]
  by_cases own : TypedKey.parse entry.1 = reading <;> simp [supplier?, own]

/-- What a client is supplied with is decoded exactly if every property that decides a name of it
stands under the name of a setting, with a text that can be decoded. -/
theorem decodeClient_ok_iff {properties : Dictionary String} {owner : String}
    {settings : Dictionary Supplied} (supplied : suppliedTo owner properties = some settings) :
    (∃ config, decodeClient owner settings = .ok config) ↔
      ∀ name entry, supplier? properties (.client owner name) = some entry →
        ∃ setting : Setting, name = setting.kebab ∧
          ∃ value, setting.kind.decode (.text entry.2) = .ok value := by
  have under := supplied?_textValues supplied
  constructor
  · rintro ⟨config, decoded⟩ name entry decides
    have accepted := (decodeClient_eq_ok_iff owner settings config).mp decoded
    have present : name ∈
        Dictionary.keys (settings.map fun entry => (entry.1, Value.text entry.2.value)) := by
      by_contra absent
      rw [← Dictionary.get?_eq_none_iff, get?_textValues supplied, decides] at absent
      cases absent
    have used := ((ClientConfig.ofValues_eq_ok_iff _ config).mp accepted).2 name present
    obtain ⟨setting, -, found⟩ := List.any_eq_true.mp used
    rw [under] at found
    cases deciding : supplier? properties (.client owner setting.kebab) with
    | none =>
        rw [deciding] at found
        cases found
    | some other =>
        rw [deciding] at found
        obtain rfl := eq_of_beq found
        cases decides.symm.trans deciding
        have decodes := decoded_of_decodeClient supplied decoded setting
        rw [deciding] at decodes
        generalize config.get setting = value at decodes
        cases decodes with
        | present decodes => exact ⟨setting, rfl, _, decodes⟩
  · intro each
    have decodable (setting : Setting) : ∃ value, ClientConfig.decodeSetting
        (settings.map fun entry => (entry.1, .text entry.2.value)) setting = .ok value := by
      unfold ClientConfig.decodeSetting
      rw [under]
      cases decides : supplier? properties (.client owner setting.kebab) with
      | none => exact ⟨none, rfl⟩
      | some entry =>
          obtain ⟨other, same, value, decodes⟩ := each _ entry decides
          cases Setting.kebab_inj same
          simp only [Option.map_some, decodes]
          exact ⟨some value, rfl⟩
    have known : ∀ name ∈ Dictionary.keys (settings.map fun entry =>
          (entry.1, Value.text entry.2.value)),
        ClientConfig.isUsed (settings.map fun entry => (entry.1, .text entry.2.value)) name := by
      intro name listed
      cases decides : supplier? properties (.client owner name) with
      | none =>
          have absent := get?_textValues supplied name
          rw [decides] at absent
          exact absurd listed ((Dictionary.get?_eq_none_iff _ _).mp absent)
      | some entry =>
          obtain ⟨setting, rfl, -⟩ := each name entry decides
          refine List.any_eq_true.mpr ⟨setting, setting.mem_all, ?_⟩
          rw [under, decides]
          exact beq_self_eq_true _
    obtain ⟨config, accepted⟩ := ClientConfig.ofValues_of_decodable decodable known
    exact ⟨config, (decodeClient_eq_ok_iff owner settings config).mpr accepted⟩

/-! ### One more property -/

section Concat

variable {properties : Dictionary String} {entry : String × String} {owner : String}
  {setting : Setting} {value : setting.Carrier}
  (read : TypedKey.parse entry.1 = .client owner setting.kebab)

include read

theorem globalValues_concat : globalValues (properties ++ [entry]) = globalValues properties := by
  unfold globalValues suppliedGlobals
  rw [List.foldl_concat, supplyGlobal, read]

theorem Loads.concat (loads : Loads properties)
    (decodes : setting.kind.decode (.text entry.2) = .ok value) :
    Loads (properties ++ [entry]) where
  wellFormed := by
    have before := loads.wellFormed
    unfold malformed? at before ⊢
    rw [List.find?_append, before, List.find?_singleton, read]
    rfl
  clients := by
    intro other settings supplied
    refine (decodeClient_ok_iff supplied).mpr ?_
    intro name deciding decides
    rw [supplier?_concat] at decides
    split at decides
    next own =>
      cases decides
      cases read.symm.trans own
      exact ⟨setting, rfl, value, decodes⟩
    · have before := (suppliedTo_isSome_iff_supplier? other properties).mpr
        ⟨name, by rw [decides]; exact Option.some_ne_none deciding⟩
      obtain ⟨given, supplied⟩ := Option.isSome_iff_exists.mp before
      exact (decodeClient_ok_iff supplied).mp (loads.clients other given supplied) name deciding
        decides
  globals := by
    intro global
    rw [globalValues_concat read]
    exact loads.globals global

end Concat

theorem Decoded.unique {kind : Kind} {text : Option String} {value other : Option kind.Carrier}
    (decoded : Decoded kind text value) (decoded' : Decoded kind text other) : value = other := by
  cases decoded with
  | absent =>
      cases decoded'
      rfl
  | present decodes =>
      cases decoded' with
      | present decodes' =>
          cases decodes.symm.trans decodes'
          rfl

def typed? (root : ConfigRoot) (owner : String) (setting : Setting) : Option setting.Carrier :=
  (root.client? owner).bind fun config => config.get setting

theorem decoded_typed? {properties : Dictionary String} {root : ConfigRoot}
    (loaded : ofProperties properties = .ok root) (owner : String) (setting : Setting) :
    Decoded setting.kind ((supplier? properties (.client owner setting.kebab)).map (·.2))
      (root.typed? owner setting) := by
  unfold typed?
  cases found : root.client? owner with
  | some config => exact decoded_of_loaded loaded found setting
  | none =>
      have unconfigured : ¬ (suppliedTo owner properties).isSome := by
        rw [← client?_isSome_iff loaded, found]
        exact Bool.false_ne_true
      rw [suppliedTo_isSome_iff_supplier?] at unconfigured
      have undecided : supplier? properties (.client owner setting.kebab) = none := by
        by_contra decided
        exact unconfigured ⟨_, decided⟩
      rw [undecided]
      exact .absent

/-- One more property, whose key is read as a setting and whose text can be decoded, sets this
setting and changes nothing else. -/
theorem ofProperties_concat (entry : String × String) {properties : Dictionary String}
    {owner : String} {setting : Setting} {value : setting.Carrier} {root : ConfigRoot}
    (loaded : ofProperties properties = .ok root)
    (read : TypedKey.parse entry.1 = .client owner setting.kebab)
    (decodes : setting.kind.decode (.text entry.2) = .ok value) :
    ∃ found, ofProperties (properties ++ [entry]) = .ok found ∧
      found.typed? owner setting = some value ∧
      ∀ other (changed : Setting), (other = owner → changed ≠ setting) →
        found.typed? other changed = root.typed? other changed := by
  have loads := (ofProperties_ok_iff properties).mp ⟨root, loaded⟩
  obtain ⟨found, again⟩ := (ofProperties_ok_iff _).mpr (loads.concat read decodes)
  refine ⟨found, again, ?_, ?_⟩
  · have decoded := decoded_typed? again owner setting
    rw [supplier?_concat, if_pos read] at decoded
    exact decoded.unique (.present decodes)
  · intro other changed elsewhere
    have decoded := decoded_typed? again other changed
    have different : ¬ TypedKey.parse entry.1 = .client other changed.kebab := by
      intro same
      rw [read, TypedKey.client.injEq] at same
      exact elsewhere same.1.symm (Setting.kebab_inj same.2.symm)
    rw [supplier?_concat, if_neg different] at decoded
    exact decoded.unique (decoded_typed? loaded other changed)

/-- The property with the typed key of a setting and a text that can be decoded is a configuration
of one client, in which the setting has the decoded value and no other setting has one. -/
theorem ofProperties_typedKey {owner : String} (nonempty : owner ≠ "")
    (unquoted : '"' ∉ owner.toList) {setting : Setting} {text : String} {value : setting.Carrier}
    (decodes : setting.kind.decode (.text text) = .ok value) :
    ∃ config : ClientConfig,
      ofProperties [(typedKey owner setting.field, text)] = .ok ⟨[(owner, config)], none, none⟩ ∧
      config.get setting = some value ∧
      ∀ other, other ≠ setting → config.get other = none := by
  have read := TypedKey.parse_typedKey nonempty unquoted setting
  have nothing : ofProperties [] = .ok .empty := rfl
  obtain ⟨found, loaded, given, others⟩ :=
    ofProperties_concat (typedKey owner setting.field, text) nothing read decodes
  have each : ∀ entry ∈ [(typedKey owner setting.field, text)],
      ∃ name, TypedKey.parse entry.1 = .client owner name :=
    List.forall_mem_singleton.mpr ⟨_, read⟩
  have owned := ofProperties_owned each
  rw [List.nil_append] at loaded
  rw [loaded] at owned ⊢
  cases supplied : suppliedTo owner [(typedKey owner setting.field, text)] with
  | none =>
      rw [supplied] at owned
      cases owned
      cases given
  | some settings =>
      rw [supplied, Option.elim_some] at owned
      cases decoded : decodeClient owner settings with
      | error e =>
          rw [decoded] at owned
          cases owned
      | ok config =>
          rw [decoded] at owned
          cases owned
          have own : (⟨[(owner, config)], none, none⟩ : ConfigRoot).client? owner = some config := by
            unfold client?
            rw [Dictionary.get?_cons, if_pos rfl]
          unfold typed? at given others
          refine ⟨config, rfl, ?_, ?_⟩
          · rwa [own] at given
          · intro other different
            have unset := others owner other fun _ => different
            rwa [own] at unset

end ConfigRoot

end ClientWiring
