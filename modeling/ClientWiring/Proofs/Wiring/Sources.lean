import ClientWiring.Proofs.Client.Told
import ClientWiring.Proofs.Config.Assignment
import ClientWiring.Proofs.Wiring.Readings
set_option autoImplicit false

/-! A setting means the same in both sources. The typed keys of a client are decoded together when
its configuration is loaded, its legacy keys one by one while it is constructed. The clients come out
the same, and where a text cannot be decoded there is none in either case, although one failure comes
before the construction and the other during it. -/

namespace ClientWiring

theorem Layers.setting?_of_empty {layers : Layers} (empty : layers.source = .empty)
    (setting : Setting) : layers.setting? setting = .ok (layers.typed? setting) := by
  cases typed : layers.typed? setting with
  | some value => exact Layers.setting?_of_typed typed
  | none =>
      cases named : setting.legacyName? with
      | none => rw [Layers.setting?_of_unnamed named, typed]
      | some name =>
          rw [Layers.setting?_of_untyped typed named]
          unfold Layers.firstText? Layers.textUnder?
          rw [empty]
          rfl

theorem Assignment.toOption_decodeText? (assignment : Assignment) (setting : Setting)
    (key : String) :
    (Layers.decodeText? setting.kind
      ((assignment.text? setting).map fun text => (key, text))).toOption =
      (ClientConfig.decodeSetting assignment.values setting).toOption := by
  unfold ClientConfig.decodeSetting
  rw [supplied?_values]
  cases assignment.text? setting with
  | none => rfl
  | some text =>
      simp only [Option.map_some, Layers.decodeText?]
      cases setting.kind.decode (.text text) <;> rfl

namespace Setup

def withLegacy (setup : Setup) (assignment : Assignment) : Setup :=
  setup.configured (some .empty) ⟨assignment.legacyProperties setup.owner⟩

section Legacy

variable {setup : Setup} {assignment : Assignment}

theorem raw?_withLegacy_other {key : String}
    (other : ∀ shared : SharedSetting, key ≠ legacyKey setup.owner shared.legacyName) :
    (setup.withLegacy assignment).source.raw? key = none :=
  PropertySource.raw?_of_absent _ (assignment.get?_legacyProperties_other other)

theorem raw?_withLegacy {setting : Setting} {name : String}
    (named : setting.legacyName? = some name) :
    (setup.withLegacy assignment).source.raw? (legacyKey setup.owner name) =
      assignment.text? setting := by
  have looked := assignment.get?_legacyProperties setup.owner named
  cases found : assignment.text? setting with
  | none => exact PropertySource.raw?_of_absent _ (looked.trans found)
  | some text =>
      obtain ⟨entry, member, rfl⟩ := assignment.mem_of_text? found
      have raw := PropertySource.raw?_of_filled ⟨assignment.legacyProperties setup.owner⟩
        (looked.trans found) (assignment.filled entry member)
      rw [assignment.trimmed entry member] at raw
      exact raw

theorem firstText?_withLegacy (unnamed : setup.interface.name ≠ setup.owner) {setting : Setting}
    {name : String} (named : setting.legacyName? = some name) :
    (setup.withLegacy assignment).layers.firstText? name =
      (assignment.text? setting).map fun text => (legacyKey setup.owner name, text) := by
  -- owners may hold slashes, so this needs that both names are names of settings
  have other (shared : SharedSetting) :
      legacyKey setup.interface.name name ≠ legacyKey setup.owner shared.legacyName := by
    intro same
    exact unnamed (legacyKey_inj named shared.named same).1
  have nothing : (setup.withLegacy assignment).layers.textUnder? setup.interface.name name = none :=
    congrArg (Option.map _) (raw?_withLegacy_other other)
  have own : (setup.withLegacy assignment).layers.textUnder? setup.owner name =
      (assignment.text? setting).map fun text => (legacyKey setup.owner name, text) :=
    congrArg (Option.map _) (raw?_withLegacy named)
  have joined : (setup.withLegacy assignment).layers.firstText? name = _ :=
    congrArg₂ Option.or nothing own
  rw [joined, Option.none_or]

/-- The legacy keys give a setting the value that the assignment gives it, or no value at all. -/
theorem toOption_setting?_withLegacy (unnamed : setup.interface.name ≠ setup.owner)
    (assignment : Assignment) (setting : Setting) :
    ((setup.withLegacy assignment).layers.setting? setting).toOption =
      (ClientConfig.decodeSetting assignment.values setting).toOption := by
  cases named : setting.legacyName? with
  | none =>
      have absent := assignment.toOption_decodeText? setting ""
      rw [assignment.text?_of_unnamed named] at absent
      rw [Layers.setting?_of_unnamed named, ← absent]
      rfl
  | some name =>
      rw [Layers.setting?_of_untyped rfl named,
        firstText?_withLegacy unnamed named]
      exact assignment.toOption_decodeText? setting _

theorem globals_withLegacy {key : String} (member : key ∈ Layers.globalKeys) :
    (setup.withLegacy assignment).source.raw? key = none := by
  exact raw?_withLegacy_other fun shared =>
    ne_legacyKey (Layers.slash_not_mem_globalKey member) _ _

end Legacy

theorem readsAlike_withLegacy {setup : Setup} {assignment : Assignment} {root : ConfigRoot}
    (unnamed : setup.interface.name ≠ setup.owner) (mode : root.encoderMode = none)
    (typed : ∀ setting, ClientConfig.decodeSetting assignment.values setting =
      .ok ((setup.configured (some root) .empty).layers.typed? setting)) :
    (setup.configured (some root) .empty).layers.ReadsAlike
      (setup.withLegacy assignment).layers := by
  have legacy (setting : Setting) : (setup.withLegacy assignment).layers.setting? setting =
      .ok ((setup.configured (some root) .empty).layers.typed? setting) := by
    have value := toOption_setting?_withLegacy unnamed assignment setting
    rw [typed setting] at value
    cases resolved : (setup.withLegacy assignment).layers.setting? setting with
    | error e =>
        rw [resolved] at value
        cases value
    | ok found =>
        rw [resolved] at value
        exact congrArg Except.ok (Option.some.inj value)
  refine ⟨?_, ?_, ?_, mode⟩
  · intro setting
    rw [Layers.setting?_of_empty rfl, legacy]
  · intro setting plain
    have untyped := legacy setting
    rw [Layers.setting?_of_unnamed plain] at untyped
    exact (Except.ok.inj untyped).symm
  · intro key member kind
    have nothing : (setup.configured (some root) .empty).source.raw? key = none := rfl
    exact PropertySource.get?_congr (nothing.trans (globals_withLegacy member).symm) kind

theorem create_withLegacy_fails {setup : Setup} {assignment : Assignment} {setting : Setting}
    {issue : Issue} (unnamed : setup.interface.name ≠ setup.owner)
    (malformed : ClientConfig.decodeSetting assignment.values setting = .error issue)
    {β ρ : Type} [ClientBuilder β ρ] [UrlReader] [StoreLibrary] (elapsed : Double)
    (scene : Scene β) :
    ∃ e, (((setup.withLegacy assignment).create elapsed : Step β ρ).run scene).1 = .error e := by
  have value := toOption_setting?_withLegacy unnamed assignment setting
  rw [malformed] at value
  cases resolved : (setup.withLegacy assignment).layers.setting? setting with
  | ok found =>
      rw [resolved] at value
      cases value
  | error e =>
      have failed : (setup.withLegacy assignment).setting? setting = .error (.config e) := by
        unfold Setup.setting?
        rw [resolved]
        rfl
      cases named : setting.legacyName? with
      | none =>
          rw [Layers.setting?_of_unnamed named] at resolved
          cases resolved
      | some name => exact create_fails_of_setting named failed elapsed scene

/-- The shared settings of a client mean the same in both sources. Either the typed keys load, and
with any builder the construction from them has the result of the construction from the legacy keys
and leaves the builder that this one leaves, or they are refused and no construction from the legacy
keys succeeds. -/
theorem create_sources_agree (setup : Setup) (assignment : Assignment) (nonempty : setup.owner ≠ "")
    (unquoted : '"' ∉ setup.owner.toList) (unnamed : setup.interface.name ≠ setup.owner)
    {β ρ : Type} [ClientBuilder β ρ] [UrlReader] [StoreLibrary] (elapsed : Double)
    (scene : Scene β) :
    let loaded := ConfigRoot.ofProperties (assignment.typedProperties setup.owner)
    let legacy := ((setup.withLegacy assignment).create elapsed : Step β ρ).run scene
    (∃ root, loaded = .ok root ∧
      let typed := ((setup.configured (some root) .empty).create elapsed : Step β ρ).run scene
      typed.1 = legacy.1 ∧ typed.2.builder = legacy.2.builder) ∨
    (∃ parts, loaded = .error (.invalidClient setup.owner parts)) ∧
      ∃ e, legacy.1 = .error e := by
  intro loaded legacy
  cases decoded : ClientConfig.ofValues assignment.values with
  | ok config =>
      left
      obtain ⟨root, loads, mode, values⟩ :=
        assignment.ofProperties_of_accepted nonempty unquoted decoded
      refine ⟨root, loads, ?_⟩
      have alike : (setup.configured (some root) .empty).layers.ReadsAlike
          (setup.withLegacy assignment).layers := by
        refine readsAlike_withLegacy unnamed mode ?_
        intro setting
        rw [ClientConfig.decodeSetting_of_ofValues decoded setting]
        exact congrArg Except.ok (values setting).symm
      have plans : ((setup.withLegacy assignment).configured (some root) .empty).plan =
          (setup.withLegacy assignment).plan := plan_configured alike
      refine create_congr ?_ plans elapsed scene
      rfl
  | error issues =>
      right
      refine ⟨assignment.ofProperties_of_refused nonempty unquoted decoded, ?_⟩
      obtain ⟨setting, issue, malformed⟩ := assignment.malformed_of_refused decoded
      exact create_withLegacy_fails unnamed malformed elapsed scene

def timeAndPassword (time : String) (filled : Text.allBlank time = false)
    (trimmed : Text.trim time = time) : Assignment where
  entries := [(⟨.connectTimeout, "connectTimeout", rfl⟩, time),
    (⟨.keyStorePassword, "keyStorePassword", rfl⟩, "a b")]
  distinct := by simp
  filled := by
    have other : Text.allBlank "a b" = false := by decide +kernel
    simpa using ⟨filled, other⟩
  trimmed := by
    have other : Text.trim "a b" = "a b" := by decide +kernel
    simpa using ⟨trimmed, other⟩

open scoped Sample in
theorem create_sources_agree_times :
    let setup := Sample.setup .reactive []
    let given := timeAndPassword "250" (by decide +kernel) (by decide +kernel)
    let malformed := timeAndPassword "soon" (by decide +kernel) (by decide +kernel)
    let scene : Scene HttpClientBuilder := ⟨"", [], .fresh true⟩
    let construct (setup : Setup) := (setup.create (.ofInt 0) : Step HttpClientBuilder _).run scene
    (∃ root, ConfigRoot.ofProperties (given.typedProperties "echo") = .ok root ∧
      (construct (setup.configured (some root) .empty)).1 = (construct (setup.withLegacy given)).1 ∧
      (construct (setup.configured (some root) .empty)).2.builder =
        (construct (setup.withLegacy given)).2.builder) ∧
    (∃ parts, ConfigRoot.ofProperties (malformed.typedProperties "echo") =
      .error (.invalidClient "echo" parts)) ∧
    ∃ e, (construct (setup.withLegacy malformed)).1 = .error e := by
  intro setup given malformed scene construct
  have agree (assignment : Assignment) := setup.create_sources_agree assignment (by decide +kernel)
    (by decide +kernel) (by decide +kernel) (.ofInt 0) scene
  have loads : (ConfigRoot.ofProperties (given.typedProperties setup.owner)).toBool = true := by
    decide +kernel
  have refuses :
      (ConfigRoot.ofProperties (malformed.typedProperties setup.owner)).toBool = false := by
    decide +kernel
  constructor
  · rcases agree given with ends | ⟨⟨parts, refused⟩, -⟩
    · exact ends
    · rw [refused] at loads
      cases loads
  · rcases agree malformed with ⟨root, loaded, -⟩ | ends
    · rw [loaded] at refuses
      cases refuses
    · exact ends

end Setup

end ClientWiring
