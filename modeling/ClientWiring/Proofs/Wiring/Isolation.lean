import ClientWiring.Proofs.Client.Told
import ClientWiring.Proofs.Config.Keys
import ClientWiring.Proofs.Config.Root
import ClientWiring.Proofs.Wiring.Readings
set_option autoImplicit false

/-! Clients are isolated from each other: the properties of an application are one flat list, but the
keys of other clients, in either source, change nothing about a client. -/

namespace ClientWiring

/-! ### Properties that differ under some keys only -/

/-- Two lists of properties differ under keys of a kind only: such properties are added, removed and
changed at any place, and the others stay as they are, in their order. -/
inductive DifferOnlyIn (kind : String → Prop) : Dictionary String → Dictionary String → Prop
  | nil : DifferOnlyIn kind [] []
  | keep {properties other : Dictionary String} (entry : String × String)
      (rest : DifferOnlyIn kind properties other) :
      DifferOnlyIn kind (entry :: properties) (entry :: other)
  | remove {properties other : Dictionary String} {entry : String × String}
      (among : kind entry.1) (rest : DifferOnlyIn kind properties other) :
      DifferOnlyIn kind (entry :: properties) other
  | add {properties other : Dictionary String} {entry : String × String}
      (among : kind entry.1) (rest : DifferOnlyIn kind properties other) :
      DifferOnlyIn kind properties (entry :: other)

namespace DifferOnlyIn

variable {kind : String → Prop} {properties other : Dictionary String}

theorem get?_eq (differ : DifferOnlyIn kind properties other) {key : String}
    (outside : ¬ kind key) : properties.get? key = other.get? key := by
  have passed {entry : String × String} (among : kind entry.1) : ¬ entry.1 = key :=
    fun same => outside (same ▸ among)
  induction differ with
  | nil => rfl
  | keep entry _ ih => rw [Dictionary.get?_cons, Dictionary.get?_cons, ih]
  | remove among _ ih => rw [Dictionary.get?_cons, if_neg (passed among), ih]
  | add among _ ih => rw [Dictionary.get?_cons, if_neg (passed among), ih]

theorem foldl_eq {σ : Type} {step : σ → String × String → σ}
    (ignores : ∀ state entry, kind entry.1 → step state entry = state)
    (differ : DifferOnlyIn kind properties other) (start : σ) :
    properties.foldl step start = other.foldl step start := by
  induction differ generalizing start with
  | nil => rfl
  | keep entry _ ih => exact ih (step start entry)
  | remove among _ ih => rw [List.foldl_cons, ignores start _ among, ih]
  | add among _ ih => rw [List.foldl_cons, ignores start _ among, ih]

end DifferOnlyIn

namespace Setup

/-- A key of another client: a typed key, in either spelling, of another owner, or the legacy key of
a setting under a name that is neither the client's own nor that of its interface. -/
inductive Elsewhere (setup : Setup) : String → Prop
  | typed {key owner setting : String} (read : TypedKey.parse key = .client owner setting)
      (another : owner ≠ setup.owner) : Elsewhere setup key
  | legacy {owner name : String} {setting : Setting} (named : setting.legacyName? = some name)
      (another : owner ≠ setup.owner) (unnamed : owner ≠ setup.interface.name) :
      Elsewhere setup (legacyKey owner name)

namespace Elsewhere

variable {setup : Setup}

theorem supply_eq (found : Option (Dictionary ConfigRoot.Supplied)) (entry : String × String)
    (elsewhere : setup.Elsewhere entry.1) : ConfigRoot.supply setup.owner found entry = found := by
  obtain ⟨key, value⟩ := entry
  unfold ConfigRoot.supply
  cases elsewhere with
  | typed read another =>
      dsimp only at read ⊢
      rw [read]
      exact if_neg another
  | legacy named _ _ =>
      split
      next read => exact absurd read (TypedKey.parse_legacyKey_ne_client named _ _ _)
      · rfl

theorem supplyGlobal_eq (globals : Dictionary String) (entry : String × String)
    (elsewhere : setup.Elsewhere entry.1) : ConfigRoot.supplyGlobal globals entry = globals := by
  obtain ⟨key, value⟩ := entry
  unfold ConfigRoot.supplyGlobal
  cases elsewhere with
  | typed read _ =>
      dsimp only at read ⊢
      rw [read]
  | legacy _ _ _ =>
      split
      next read => exact absurd read (TypedKey.parse_legacyKey_ne_everywhere _ _ _)
      · rfl

theorem not_legacyKey {setting : Setting} {name holder : String}
    (named : setting.legacyName? = some name)
    (own : holder = setup.interface.name ∨ holder = setup.owner) :
    ¬ setup.Elsewhere (legacyKey holder name) := by
  intro elsewhere
  generalize key_eq : legacyKey holder name = key at elsewhere
  cases elsewhere with
  | typed read _ =>
      rw [← key_eq] at read
      exact TypedKey.parse_legacyKey_ne_client named _ _ _ read
  | legacy named' another unnamed =>
      obtain ⟨rfl, -⟩ := legacyKey_inj named named' key_eq
      rcases own with same | same
      · exact unnamed same
      · exact another same

theorem not_globalKey {key : String} (member : key ∈ Layers.globalKeys) :
    ¬ setup.Elsewhere key := by
  have global : ∀ key ∈ Layers.globalKeys,
      TypedKey.parse key ∈ [.foreign, .lookedUp, .everywhere .multipartPostEncoderMode] := by
    decide +kernel
  intro elsewhere
  cases elsewhere with
  | typed read _ =>
      have listed := global key member
      rw [read] at listed
      simp at listed
  | legacy _ _ _ => exact ne_legacyKey (Layers.slash_not_mem_globalKey member) _ _ rfl

end Elsewhere

theorem client?_of_differOnlyIn {setup : Setup} {properties other : Dictionary String}
    {root otherRoot : ConfigRoot} (loads : ConfigRoot.ofProperties properties = .ok root)
    (otherLoads : ConfigRoot.ofProperties other = .ok otherRoot)
    (elsewhere : DifferOnlyIn setup.Elsewhere properties other) :
    root.client? setup.owner = otherRoot.client? setup.owner ∧
      root.encoderMode = otherRoot.encoderMode := by
  obtain ⟨client, clients, decoded⟩ := ConfigRoot.ofProperties_eq_ok loads
  obtain ⟨otherClient, otherClients, otherDecoded⟩ := ConfigRoot.ofProperties_eq_ok otherLoads
  have supplied : ConfigRoot.suppliedTo setup.owner properties =
      ConfigRoot.suppliedTo setup.owner other :=
    elsewhere.foldl_eq Elsewhere.supply_eq none
  have globals : ConfigRoot.suppliedGlobals properties = ConfigRoot.suppliedGlobals other :=
    elsewhere.foldl_eq Elsewhere.supplyGlobal_eq []
  constructor
  · rw [client, otherClient, supplied]
  · rw [decoded, otherDecoded, globals]
    rfl

/-- A client is constructed in the same way from two lists of properties that differ only under keys
of other clients, if both can be loaded. -/
theorem create_isolated [UrlReader] [StoreLibrary] (setup : Setup)
    (properties other : Dictionary String) (root otherRoot : ConfigRoot)
    (loads : ConfigRoot.ofProperties properties = .ok root)
    (otherLoads : ConfigRoot.ofProperties other = .ok otherRoot)
    (elsewhere : DifferOnlyIn setup.Elsewhere properties other) :
    (setup.configured (some root) ⟨properties⟩).Indistinguishable
      (setup.configured (some otherRoot) ⟨other⟩) := by
  obtain ⟨client, mode⟩ := client?_of_differOnlyIn loads otherLoads elsewhere
  have sameTexts {key : String} (own : ¬ setup.Elsewhere key) :
      (PropertySource.mk other).raw? key = (PropertySource.mk properties).raw? key :=
    PropertySource.raw?_congr (elsewhere.get?_eq own).symm
  have alike : (setup.configured (some otherRoot) ⟨other⟩).layers.ReadsAlike
      (setup.configured (some root) ⟨properties⟩).layers := by
    refine Layers.readsAlike_of_texts client.symm mode.symm ?_ ?_
    · intro key member
      exact sameTexts (Elsewhere.not_globalKey member)
    · intro setting name named _
      refine Layers.firstText?_congr rfl rfl ?_
      intro holder own
      exact sameTexts (Elsewhere.not_legacyKey named own)
  exact indistinguishable_of_readsAlike alike (congrArg Option.isSome client.symm)

def twoClients : Dictionary String := [
  ("rest-client.echo.url", "http://localhost"), ("rest-client.\"mail.box\".uri", "http://mail"),
  ("echo/mp-rest/connectTimeout", "5")]

def otherClients : Dictionary String := [
  ("mail/mp-rest/echo/mp-rest/connectTimeout", "soon"), ("rest-client.echo.url", "http://localhost"),
  ("echo/mp-rest/connectTimeout", "5"), ("rest-client.third.read-timeout", "7")]

open scoped Sample in
theorem create_isolated_clients :
    ∃ root otherRoot, ConfigRoot.ofProperties twoClients = .ok root ∧
      ConfigRoot.ofProperties otherClients = .ok otherRoot ∧
      ((Sample.setup .reactive []).configured (some root) ⟨twoClients⟩).Indistinguishable
        ((Sample.setup .reactive []).configured (some otherRoot) ⟨otherClients⟩) := by
  have loadable : (ConfigRoot.ofProperties twoClients).toBool = true := by decide +kernel
  have otherLoadable : (ConfigRoot.ofProperties otherClients).toBool = true := by decide +kernel
  have second : TypedKey.parse "rest-client.\"mail.box\".uri" = .client "mail.box" "uri" := by
    decide +kernel
  have third : TypedKey.parse "rest-client.third.read-timeout" = .client "third" "read-timeout" := by
    decide +kernel
  have named : Setting.connectTimeout.legacyName? = some "connectTimeout" := rfl
  have similar : (Sample.setup .reactive []).Elsewhere
      (legacyKey "mail/mp-rest/echo" "connectTimeout") :=
    .legacy named (by decide +kernel) (by decide +kernel)
  have elsewhere : DifferOnlyIn (Sample.setup .reactive []).Elsewhere twoClients otherClients := by
    refine .add similar (.keep _ (.remove (.typed second ?_) (.keep _ (.add (.typed third ?_) .nil))))
    · decide +kernel
    · decide +kernel
  cases loads : ConfigRoot.ofProperties twoClients with
  | error e =>
      rw [loads] at loadable
      cases loadable
  | ok root =>
      cases otherLoads : ConfigRoot.ofProperties otherClients with
      | error e =>
          rw [otherLoads] at otherLoadable
          cases otherLoadable
      | ok otherRoot =>
          exact ⟨root, otherRoot, rfl, rfl, create_isolated _ twoClients otherClients root otherRoot
            loads otherLoads elsewhere⟩

end Setup

end ClientWiring
