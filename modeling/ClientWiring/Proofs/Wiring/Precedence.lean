import ClientWiring.Proofs.Client.Told
import ClientWiring.Proofs.Config.Keys
import ClientWiring.Proofs.Wiring.Readings
set_option autoImplicit false

/-! The precedence of the layers, over whole constructions. The layer that decides a setting hides
the lower ones entirely, malformed values included, and is never passed over itself. -/

namespace ClientWiring

def PropertySource.AgreeOff (source other : PropertySource) (keys : List String) : Prop :=
  ∀ key, key ∉ keys → source.properties.get? key = other.properties.get? key

theorem PropertySource.raw?_insert_blank (properties : Dictionary String) (key : String)
    {blank : String} (allBlank : Text.allBlank blank = true) (other : String) :
    raw? ⟨properties.insert key blank⟩ other = raw? ⟨properties.erase key⟩ other := by
  by_cases same : key = other
  · have inserted : (properties.insert key blank).get? other = some blank := by
      rw [Dictionary.get?_insert, if_pos same]
    have erased : (properties.erase key).get? other = none := by
      rw [Dictionary.get?_erase, if_pos same]
    rw [raw?_of_blank ⟨properties.insert key blank⟩ inserted allBlank,
      raw?_of_absent ⟨properties.erase key⟩ erased]
  · apply raw?_congr
    rw [Dictionary.get?_insert, Dictionary.get?_erase, if_neg same, if_neg same]

namespace Setup

section Layered

variable [UrlReader] [StoreLibrary]

/-- A construction looks at the legacy texts of its client alone, and at those of a setting only
where no typed value decides. -/
theorem indistinguishable_of_source {setup : Setup} {other : PropertySource}
    (globals : ∀ key ∈ Layers.globalKeys, setup.source.raw? key = other.raw? key)
    (texts : ∀ (setting : Setting) (name : String), setting.legacyName? = some name →
      setup.layers.typed? setting = none →
      Layers.firstText? { setup.layers with source := other } name =
        setup.layers.firstText? name) :
    setup.Indistinguishable { setup with source := other } := by
  have alike : (setup.configured setup.root other).layers.ReadsAlike setup.layers :=
    Layers.readsAlike_of_texts rfl rfl (fun key member => (globals key member).symm) texts
  exact indistinguishable_of_readsAlike alike rfl

theorem indistinguishable_of_raw? {setup : Setup} {other : PropertySource}
    (same : ∀ key, setup.source.raw? key = other.raw? key) :
    setup.Indistinguishable { setup with source := other } := by
  refine indistinguishable_of_source (fun key _ => same key) ?_
  intro setting name _ _
  exact Layers.firstText?_congr rfl rfl fun holder _ => (same _).symm

theorem indistinguishable_of_agreeOff {setup : Setup} {other : PropertySource} {setting : Setting}
    {name : String} {keys : List String} (named : setting.legacyName? = some name)
    (agree : setup.source.AgreeOff other keys)
    (legacy : ∀ key ∈ keys, ∃ owner, key = legacyKey owner name)
    (same : setup.layers.typed? setting = none →
      Layers.firstText? { setup.layers with source := other } name =
        setup.layers.firstText? name) :
    setup.Indistinguishable { setup with source := other } := by
  refine indistinguishable_of_source ?_ ?_
  · intro key member
    have plain : '/' ∉ key.toList := by
      revert key
      decide +kernel
    apply PropertySource.raw?_congr
    apply agree key
    intro listed
    obtain ⟨owner, rfl⟩ := legacy key listed
    exact ne_legacyKey plain owner name rfl
  · intro setting' name' named' untyped
    by_cases this : setting' = setting
    · subst this
      cases named.symm.trans named'
      exact same untyped
    · refine Layers.firstText?_congr rfl rfl ?_
      intro holder _
      apply Eq.symm
      apply PropertySource.raw?_congr
      apply agree
      intro listed
      obtain ⟨owner, sameKey⟩ := legacy _ listed
      exact this (legacyKey_inj named' named sameKey).2

/-- The layers of a setting in their strict order. A typed value hides both legacy values, and the
value under the name of the interface hides the one under the client's own: whatever stands there,
no builder notices. A blank legacy value is as good as none. Where the first text that is present
cannot be decoded, the setting is refused and no construction succeeds. -/
theorem create_layered (setup : Setup) (setting : Setting) (name : String)
    (named : setting.legacyName? = some name) :
    (∀ value, setup.layers.typed? setting = some value → ∀ other : PropertySource,
      setup.source.AgreeOff other
        [legacyKey setup.interface.name name, legacyKey setup.owner name] →
      setup.Indistinguishable { setup with source := other }) ∧
    (∀ value, setup.layers.typed? setting = none → setup.owner ≠ setup.interface.name →
      setup.source.properties.get? (legacyKey setup.interface.name name) = some value →
      Text.allBlank value = false → ∀ other : PropertySource,
      setup.source.AgreeOff other [legacyKey setup.owner name] →
      setup.Indistinguishable { setup with source := other }) ∧
    (∀ owner blank, Text.allBlank blank = true →
      let properties := setup.source.properties
      Indistinguishable
        { setup with source := ⟨properties.insert (legacyKey owner name) blank⟩ }
        { setup with source := ⟨properties.erase (legacyKey owner name)⟩ }) ∧
    (∀ key text fault, setup.layers.typed? setting = none →
      setup.layers.firstText? name = some (key, text) →
      setting.kind.decode (.text text) = .error fault →
      setup.setting? setting = .error (.config (.invalidValue text key setting.kind.name)) ∧
      ∀ {β ρ : Type} [ClientBuilder β ρ] (elapsed : Double) (scene : Scene β),
        ∃ e, ((setup.create elapsed : Step β ρ).run scene).1 = .error e) := by
  refine ⟨?_, ?_, ?_, ?_⟩
  · intro value typed other agree
    refine indistinguishable_of_agreeOff named agree ?_ ?_
    · intro key listed
      rcases List.mem_pair.mp listed with rfl | rfl
      · exact ⟨_, rfl⟩
      · exact ⟨_, rfl⟩
    · intro untyped
      cases typed.symm.trans untyped
  · intro value _ distinct found filled other agree
    refine indistinguishable_of_agreeOff named agree ?_ ?_
    · intro key listed
      exact ⟨_, List.mem_singleton.mp listed⟩
    · intro _
      have off : legacyKey setup.interface.name name ∉ [legacyKey setup.owner name] := by
        intro listed
        exact distinct (legacyKey_inj named named (List.mem_singleton.mp listed)).1.symm
      have text := setup.source.raw?_of_filled found filled
      have text' := other.raw?_of_filled ((agree _ off).symm.trans found) filled
      unfold Layers.firstText? Layers.textUnder? layers
      rw [text, text']
      rfl
  · intro owner blank allBlank
    exact indistinguishable_of_raw? (PropertySource.raw?_insert_blank _ _ allBlank)
  · intro key text fault untyped first malformed
    have refused : setup.setting? setting =
        .error (.config (.invalidValue text key setting.kind.name)) := by
      unfold Setup.setting?
      rw [Layers.setting?_of_untyped untyped named, first]
      simp only [Layers.decodeText?, malformed]
      rfl
    exact ⟨refused, fun elapsed scene => create_fails_of_setting named refused elapsed scene⟩

end Layered

def typedZero : Setup :=
  let times : ClientConfig := ⟨fun setting =>
    match setting with
    | .connectTimeout => some (0 : Int)
    | _ => none⟩
  { Sample.setup .classic [] with root := some ⟨[("echo", times)], none, none⟩ }

def namedTime (value : String) : Setup :=
  Sample.setup .reactive [("acme.Echo/mp-rest/connectTimeout", value)]

open scoped Sample in
theorem create_layered_times :
    typedZero.Indistinguishable { typedZero with
      source := ⟨[("acme.Echo/mp-rest/connectTimeout", "soon"),
        ("echo/mp-rest/connectTimeout", "250")]⟩ } ∧
    (namedTime " 40 ").Indistinguishable { namedTime " 40 " with
      source := ⟨[("echo/mp-rest/connectTimeout", "late"),
        ("acme.Echo/mp-rest/connectTimeout", " 40 ")]⟩ } ∧
    Indistinguishable
      { namedTime "40" with
        source := ⟨[("acme.Echo/mp-rest/connectTimeout", "40"),
          ("echo/mp-rest/connectTimeout", " ")]⟩ }
      { namedTime "40" with source := ⟨[("acme.Echo/mp-rest/connectTimeout", "40")]⟩ } ∧
    (namedTime "soon").setting? .connectTimeout =
      .error (.config (.invalidValue "soon" "acme.Echo/mp-rest/connectTimeout" "int")) ∧
    ∃ e, (((namedTime "soon").create (.ofInt 0) : Step Recording Unit).run
      ⟨"", [], .empty⟩).1 = .error e := by
  obtain ⟨hidden, -, -, -⟩ := typedZero.create_layered .connectTimeout "connectTimeout" rfl
  obtain ⟨-, lower, -, -⟩ :=
    (namedTime " 40 ").create_layered .connectTimeout "connectTimeout" rfl
  obtain ⟨-, -, absent, -⟩ := (namedTime "40").create_layered .connectTimeout "connectTimeout" rfl
  obtain ⟨-, -, -, refused⟩ :=
    (namedTime "soon").create_layered .connectTimeout "connectTimeout" rfl
  refine ⟨hidden (0 : Int) rfl _ ?_,
    lower " 40 " rfl (by decide +kernel) rfl (by decide +kernel) _ ?_, ?_, ?_⟩
  · intro key off
    have notNamed : ¬ "acme.Echo/mp-rest/connectTimeout" = key := by
      rintro rfl
      exact off (by decide +kernel)
    have notOwned : ¬ "echo/mp-rest/connectTimeout" = key := by
      rintro rfl
      exact off (by decide +kernel)
    rw [Dictionary.get?_cons, Dictionary.get?_cons, if_neg notNamed, if_neg notOwned]
    rfl
  · intro key off
    have notOwned : ¬ "echo/mp-rest/connectTimeout" = key := by
      rintro rfl
      exact off (by decide +kernel)
    rw [Dictionary.get?_cons, if_neg notOwned]
    rfl
  · exact absent "echo" " " (by decide)
  · obtain ⟨resolved, failed⟩ := refused "acme.Echo/mp-rest/connectTimeout" "soon" .wholeUnreadable
      rfl (by decide +kernel) rfl
    exact ⟨resolved, failed (.ofInt 0) ⟨"", [], Recording.empty⟩⟩

end Setup

end ClientWiring
