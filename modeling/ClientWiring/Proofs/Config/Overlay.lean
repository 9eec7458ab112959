import ClientWiring.Proofs.Config.Legacy
import ClientWiring.Proofs.Config.Meaning
import ClientWiring.Proofs.Config.Shared
set_option autoImplicit false

/-! The properties of an application: those of a file, with the environment over them. A variable of
the environment takes the place of the property with the same key and otherwise comes after those of
the file. The legacy source looks up keys, so the environment always wins there. A typed setting has
two spellings and the last one decides, so a property of the file can win over the environment. -/

namespace ClientWiring

namespace ConfigRoot

variable {file environment : Dictionary String}

/-- What decides a setting: the last variable of the environment whose key the file has not; else the
last property of the file, with the value that the environment has under its key. -/
theorem supplier?_merge (fileDistinct : file.keys.Nodup) (distinct : environment.keys.Nodup)
    (reading : TypedKey) :
    supplier? (file.merge environment) reading =
      (supplier? (environment.filter fun entry => decide (entry.1 ∉ file.keys)) reading).or
        ((supplier? file reading).map fun entry =>
          (entry.1, (environment.get? entry.1).getD entry.2)) := by
  rw [Dictionary.merge_eq fileDistinct distinct, supplier?_append, supplier?_map]

/-- A setting that the file keeps from the environment: the environment has it only under keys that
the file has too, and the file has it last under a key that the environment has not. -/
def Shadowed (file environment : Dictionary String) (reading : TypedKey) : Prop :=
  (∀ entry ∈ environment, TypedKey.parse entry.1 = reading → entry.1 ∈ file.keys) ∧
    ∃ entry, supplier? file reading = some entry ∧ entry.1 ∉ environment.keys

theorem decided_of_environment (fileDistinct : file.keys.Nodup)
    (distinct : environment.keys.Nodup) {reading : TypedKey} {given : String × String}
    (member : given ∈ environment) (read : TypedKey.parse given.1 = reading) :
    ∃ deciding, supplier? (file.merge environment) reading = some deciding ∧
      (¬ Shadowed file environment reading ∧ deciding ∈ environment ∨
        Shadowed file environment reading ∧ deciding ∈ file ∧
          deciding.1 ∉ environment.keys) := by
  rw [supplier?_merge fileDistinct distinct]
  -- Variables that are new to the file stand behind it, so the last of them decides if there is one.
  cases added : supplier? (environment.filter fun entry => decide (entry.1 ∉ file.keys)) reading with
  | some entry =>
      obtain ⟨listed, own⟩ := read_of_supplier? added
      obtain ⟨listed, new⟩ := List.mem_filter.mp listed
      refine ⟨entry, rfl, .inl ⟨?_, listed⟩⟩
      rintro ⟨known, -⟩
      exact of_decide_eq_true new (known entry listed own)
  | none =>
      -- Otherwise every such variable took a place in the file, and the last place there decides.
      have known : ∀ entry ∈ environment, TypedKey.parse entry.1 = reading →
          entry.1 ∈ file.keys := by
        intro entry listed own
        by_contra new
        exact (supplier?_eq_none_iff _ _).mp added entry
          (List.mem_filter.mpr ⟨listed, decide_eq_true new⟩) own
      cases last : supplier? file reading with
      | none =>
          obtain ⟨entry, listed, same⟩ := List.mem_map.mp (known given member read)
          refine absurd ?_ ((supplier?_eq_none_iff _ _).mp last entry listed)
          rw [same]
          exact read
      | some entry =>
          obtain ⟨listed, own⟩ := read_of_supplier? last
          cases found : environment.get? entry.1 with
          | some value =>
              refine ⟨(entry.1, value), by simp [found], .inl ⟨?_, Dictionary.mem_of_get? found⟩⟩
              rintro ⟨-, other, alsoLast, unknown⟩
              cases last.symm.trans alsoLast
              rw [(Dictionary.get?_eq_none_iff _ _).mpr unknown] at found
              cases found
          | none =>
              have unknown := (Dictionary.get?_eq_none_iff _ _).mp found
              exact ⟨entry, by simp [found], .inr ⟨⟨known, entry, last, unknown⟩, listed, unknown⟩⟩

/-- A typed configuration that is loaded from a file with the environment over it. Each setting that
the environment has is configured, and decoded from a variable of the environment unless the file
keeps it. -/
def Overlaid (root : ConfigRoot) (file environment : Dictionary String) : Prop :=
  ∀ (owner : String) (setting : Setting),
    (∃ given ∈ environment, TypedKey.parse given.1 = .client owner setting.kebab) →
    ∃ config, root.client? owner = some config ∧
      ∃ deciding, TypedKey.parse deciding.1 = .client owner setting.kebab ∧
        Decoded setting.kind (some deciding.2) (config.get setting) ∧
        (¬ Shadowed file environment (.client owner setting.kebab) ∧ deciding ∈ environment ∨
          Shadowed file environment (.client owner setting.kebab) ∧ deciding ∈ file ∧
            deciding.1 ∉ environment.keys)

theorem overlaid_of_loaded (fileDistinct : file.keys.Nodup) (distinct : environment.keys.Nodup)
    {root : ConfigRoot} (loaded : ofProperties (file.merge environment) = .ok root) :
    root.Overlaid file environment := by
  rintro owner setting ⟨given, member, read⟩
  obtain ⟨deciding, decides, origin⟩ :=
    decided_of_environment fileDistinct distinct member read
  obtain ⟨listed, own⟩ := read_of_supplier? decides
  have configured : (root.client? owner).isSome := by
    rw [client?_isSome_iff loaded, suppliedTo_isSome_iff]
    exact ⟨deciding, listed, setting.kebab, own⟩
  obtain ⟨config, found⟩ := Option.isSome_iff_exists.mp configured
  have decoded := decoded_of_loaded loaded found setting
  rw [decides] at decoded
  exact ⟨config, found, deciding, own, decoded, origin⟩

end ConfigRoot

namespace Application

/-- The environment over the file. An answer of the legacy source under a key of the environment
depends on its variable alone. A typed setting that the environment has is decoded from a variable of
the environment, except exactly where the file keeps it: there the last property of the file decides
it. -/
theorem environment_overlays (app : Application) (distinct : app.site.environment.keys.Nodup) :
    (∀ root, app.root = none → (Access.root.run app).1 = .ok root →
      root.value.Overlaid app.fileVariables app.site.environment) ∧
    (∀ source, app.source = none → (Access.source.run app).1 = .ok source →
      ∀ entry ∈ app.site.environment, ∀ kind,
        source.value.get? entry.1 kind = (PropertySource.mk [entry]).get? entry.1 kind) := by
  constructor
  · intro root unloaded loaded
    exact ConfigRoot.overlaid_of_loaded app.nodup_keys_fileVariables distinct
      (root_eq_ok unloaded loaded)
  · intro source unloaded loaded entry member kind
    refine PropertySource.get?_congr (PropertySource.raw?_congr ?_) kind
    rw [source_eq_ok unloaded loaded, Dictionary.get?_merge _ distinct,
      Dictionary.get?_of_mem distinct member, Dictionary.get?_cons, if_pos rfl]
    rfl

def shadowingFile : List UInt8 :=
  "rest-client.a.url=http://plain\nrest-client.\"a\".url=http://file".toList.map fun c =>
    c.toNat.toUInt8

def shadowing : Application := .start
  { environment := [("rest-client.a.url", "http://env")]
    tree := ⟨[([".env"], .file shadowingFile)], []⟩ }

theorem properties_shadowing :
    shadowing.properties = .ok [
      ("rest-client.a.url", "http://env"), ("rest-client.\"a\".url", "http://file")] := by
  have content : shadowing.site.tree.read? Settings.defaultsFile = some shadowingFile := by
    rw [Settings.read?_defaultsFile rfl]
    rfl
  have defined : Settings.variablesAt shadowing.site Settings.defaultsFile = .ok [
      ("rest-client.a.url", some "http://plain"), ("rest-client.\"a\".url", some "http://file")] := by
    unfold Settings.variablesAt
    rw [content]
    decide +kernel
  have settings : Settings.load shadowing.site [] = .ok Settings.default := by
    unfold Settings.load
    rw [defined]
    decide +kernel
  have unloaded : shadowing.settings = none := rfl
  have loaded : shadowing.settingsOrLoaded = .ok Settings.default := by
    unfold settingsOrLoaded
    rw [unloaded, Option.elim_none, settings]
    rfl
  unfold Application.properties
  rw [loaded]
  unfold Settings.properties Settings.default
  dsimp only [Except.bind]
  rw [defined]
  decide

theorem root_shadowing :
    ∃ root, (Access.root.run shadowing).1 = .ok root ∧
      (root.value.client? "a").bind (·.get .url) = some "http://file" := by
  have decoded : ((ConfigRoot.ofProperties [
      ("rest-client.a.url", "http://env"), ("rest-client.\"a\".url", "http://file")]).toOption.bind
        fun root => (root.client? "a").bind (·.get .url) : Option String) = some "http://file" := by
    decide
  cases loaded : ConfigRoot.ofProperties [
      ("rest-client.a.url", "http://env"), ("rest-client.\"a\".url", "http://file")] with
  | error e =>
      rw [loaded] at decoded
      cases decoded
  | ok value =>
      rw [loaded] at decoded
      have fresh : shadowing.freshRoot = .ok ⟨value, shadowing.loads⟩ :=
        (freshRoot_eq_ok_iff _ _).mpr ⟨_, properties_shadowing, loaded, rfl⟩
      refine ⟨⟨value, shadowing.loads⟩, ?_, decoded⟩
      rw [Access.run_root rfl, fresh]

theorem environment_overlays_shadowing :
    shadowing.site.environment.keys.Nodup ∧ ∃ root, (Access.root.run shadowing).1 = .ok root ∧
      root.value.Overlaid shadowing.fileVariables shadowing.site.environment := by
  have distinct : shadowing.site.environment.keys.Nodup := by decide
  obtain ⟨root, loaded, -⟩ := root_shadowing
  exact ⟨distinct, root, loaded, (environment_overlays shadowing distinct).1 root rfl loaded⟩

/-- The environment has the setting, and the application gets it from the file. -/
theorem environment_shadowed :
    shadowing.site.environment = [("rest-client.a.url", "http://env")] ∧
    TypedKey.parse "rest-client.a.url" = .client "a" Setting.url.kebab ∧
    ∃ config, ((Access.client? "a").run shadowing).1 = .ok (some config) ∧
      config.get .url = some "http://file" := by
  refine ⟨rfl, by decide, ?_⟩
  obtain ⟨root, loaded, decoded⟩ := root_shadowing
  obtain ⟨config, found, value⟩ := Option.bind_eq_some_iff.mp decoded
  refine ⟨config, ?_, value⟩
  rw [Access.run_client?, loaded, ← found]
  rfl

end Application

end ClientWiring
