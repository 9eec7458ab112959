import ClientWiring.Class.Sample
import ClientWiring.Client.Builder
import ClientWiring.Proofs.Config.Shared
import ClientWiring.Proofs.Wiring.Escape
import ClientWiring.Proofs.Wiring.Run
import ClientWiring.Wiring.Entry
set_option autoImplicit false

/-! The records of clients that are asked for. A construction leaves one record if it succeeds, one if
its configuration is refused, and none if it fails otherwise. The configuration that the application
shares is loaded before the construction, and where it is refused nothing records that. -/

namespace ClientWiring

namespace ClientOrder

/-! ### The shared configuration -/

section Shared

variable (order : ClientOrder) (app : Application)

theorem rootOrShared_answer : (order.rootOrShared.run app).1 =
    order.root.elim ((Access.root.run app).1.map (·.value)) .ok := by
  unfold rootOrShared
  cases order.root with
  | some root => rfl
  | none =>
      rcases loaded : Access.root.run app with ⟨error | root, after⟩
      · rw [Stateful.run_bind_error loaded]
        rfl
      · rw [Stateful.run_bind_ok loaded]
        rfl

theorem sourceOrShared_ne_config (cause : ConfigError) :
    (order.sourceOrShared.run app).1 ≠ .error (.config cause) := by
  intro refused
  unfold sourceOrShared at refused
  cases given : order.source with
  | some source =>
      rw [given] at refused
      cases refused
  | none =>
      rw [given] at refused
      cases kept : app.source with
      | some source =>
          rw [Stateful.run_bind_ok (Access.run_source_of_kept kept)] at refused
          cases refused
      | none =>
          have loading := Access.run_source kept
          unfold Application.freshSource at loading
          cases read : app.properties with
          | ok properties =>
              rw [read] at loading
              rw [Stateful.run_bind_ok loading] at refused
              cases refused
          | error e =>
              obtain ⟨fault, rfl⟩ := Application.properties_eq_error read
              rw [read] at loading
              rw [Stateful.run_bind_error loading] at refused
              cases refused

theorem root_eq_config_iff (cause : ConfigError) :
    (Access.root.run app).1 = .error (.config cause) ↔
      app.root = none ∧ ∃ properties, app.properties = .ok properties ∧
        ConfigRoot.ofProperties properties = .error cause := by
  rw [← app.freshRoot_eq_config_iff]
  cases kept : app.root with
  | some root =>
      rw [Access.run_root_of_kept kept]
      exact ⟨nofun, fun unkept => nomatch unkept.1⟩
  | none =>
      rw [Access.run_root kept]
      cases fresh : app.freshRoot with
      | ok root => exact ⟨nofun, fun refused => nomatch refused.2⟩
      | error e => exact ⟨fun refused => ⟨rfl, refused⟩, fun refused => refused.2⟩

theorem setup_answer (registry : Registry) (around : Surroundings) :
    ((order.setup registry around).run app).1 =
      (order.rootOrShared.run app).1.bind fun root =>
        (order.sourceOrShared.run (order.rootOrShared.run app).2).1.map fun source =>
          { variant := order.variant
            interface := order.interface
            annotationUri := order.interface.baseUriOr order.baseUri
            owner := order.interface.ownerOr order.owner
            annotationProviders := order.providers
            root := some root
            source := source
            registry := registry
            around := around } := by
  unfold setup
  rcases first : order.rootOrShared.run app with ⟨e | root, after⟩
  · rw [Stateful.run_bind_error first]
    rfl
  · rw [Stateful.run_bind_ok first]
    dsimp only [Except.bind]
    rcases second : order.sourceOrShared.run after with ⟨e | source, last⟩
    · rw [Stateful.run_bind_error second]
      rfl
    · rw [Stateful.run_bind_ok second]
      rfl

def audit (typedConfig : Bool) : Audit where
  owner := order.interface.ownerOr order.owner
  interface := order.interface.name
  variant := order.variant.name
  typedConfig := typedConfig

theorem audit_of_setup (registry : Registry) (around : Surroundings) {setup : Setup}
    (given : ((order.setup registry around).run app).1 = .ok setup) :
    setup.audit = order.audit setup.audit.typedConfig := by
  rw [setup_answer] at given
  cases first : (order.rootOrShared.run app).1 with
  | error e =>
      rw [first] at given
      cases given
  | ok root =>
      rw [first] at given
      dsimp only [Except.bind] at given
      cases second : (order.sourceOrShared.run (order.rootOrShared.run app).2).1 with
      | error e =>
          rw [second] at given
          cases given
      | ok source =>
          rw [second] at given
          cases given
          rfl

/-- An order is refused before the construction for the configuration exactly if it needs the shared
root, and this is refused. -/
theorem setup_eq_config_iff (registry : Registry) (around : Surroundings) (cause : ConfigError) :
    ((order.setup registry around).run app).1 = .error (.config cause) ↔
      order.root = none ∧ app.root = none ∧ ∃ properties, app.properties = .ok properties ∧
        ConfigRoot.ofProperties properties = .error cause := by
  rw [← root_eq_config_iff, setup_answer, rootOrShared_answer]
  constructor
  · intro refused
    rcases bind_eq_error refused with first | ⟨root, -, second⟩
    · cases given : order.root with
      | some root =>
          rw [given] at first
          cases first
      | none =>
          rw [given] at first
          exact ⟨rfl, eq_error_of_map first⟩
    · exact absurd (eq_error_of_map second) (order.sourceOrShared_ne_config _ cause)
  · rintro ⟨unrooted, refused⟩
    rw [unrooted, refused]
    rfl

end Shared

/-! ### The records of an order -/

section Order

variable {β ρ : Type} [ClientBuilder β ρ]

inductive Logged (order : ClientOrder) (elapsed : Double) (scene : Scene β) :
    Except OrderError ρ → Scene β → Prop
  /-- A client is made, and one record says so. -/
  | built {client : ρ} {after : Scene β} (typedConfig : Bool)
      (log : after.log = scene.log ++
        [⟨(order.audit typedConfig).successRecord elapsed, scene.clientPrefix⟩]) :
      Logged order elapsed scene (.ok client) after
  /-- The configuration of the client is refused, and one record says why. -/
  | refused {error : ConfigError} {after : Scene β} (typedConfig : Bool)
      (log : after.log = scene.log ++
        [⟨(order.audit typedConfig).failureRecord error, order.interface.ownerOr order.owner⟩]) :
      Logged order elapsed scene (.error (.wiring (.config error))) after
  /-- The construction fails otherwise, without a record. -/
  | failed {error : WiringError} {after : Scene β} (foreign : ¬ error.IsConfig)
      (log : after.log = scene.log) : Logged order elapsed scene (.error (.wiring error)) after
  /-- The construction does not start, as the shared configuration cannot be loaded. -/
  | unstarted {error : SharedError} : Logged order elapsed scene (.error (.shared error)) scene

/-- Every order that gets a client leaves one record of that, and every refused configuration is
recorded once, except that of a shared root. This one is missed exactly where an order without a root
finds none kept and properties that are no configuration. -/
theorem create_logged [UrlReader] [StoreLibrary] (order : ClientOrder) (registry : Registry)
    (around : Surroundings) (elapsed : Double) (app : Application) (scene : Scene β) :
    let outcome := order.create registry around elapsed app scene
    order.Logged elapsed scene outcome.1 outcome.2.2 ∧
    ∀ error, outcome.1 = .error (.shared (.config error)) ↔
      order.root = none ∧ app.root = none ∧ ∃ properties, app.properties = .ok properties ∧
        ConfigRoot.ofProperties properties = .error error := by
  intro outcome
  have refused := fun error => order.setup_eq_config_iff app registry around error
  have audited (setup : Setup)
      (given : ((order.setup registry around).run app).1 = .ok setup) :=
    order.audit_of_setup app registry around given
  dsimp only [outcome]
  unfold create
  rcases prepared : (order.setup registry around).run app with ⟨e | setup, after⟩
  · rw [prepared] at refused
    refine ⟨.unstarted, fun error => ?_⟩
    rw [← refused error]
    constructor <;>
      · intro same
        cases same
        rfl
  · rw [prepared] at refused audited
    dsimp only
    rw [setup.run_create elapsed scene]
    -- The construction has started: its result decides what it records, and no fault of it is one
    -- of the shared configuration.
    constructor
    · dsimp only
      rw [audited setup rfl]
      rcases (setup.plan.constructed setup.interface scene.builder).1 with e | client
      · cases e with
        | config error => exact .refused _ rfl
        | _ => exact .failed id (List.append_nil _)
      · exact .built _ rfl
    · intro error
      rw [← refused error]
      refine ⟨?_, nofun⟩
      intro same
      obtain ⟨cause, -, other⟩ := exists_of_mapError same
      cases other

end Order

def misconfigured : Application := .start ⟨[("rest-client.oops", "1")], .empty []⟩

theorem properties_misconfigured : misconfigured.properties = .ok [("rest-client.oops", "1")] := by
  have nothing : Settings.variablesAt misconfigured.site Settings.defaultsFile = .ok [] := by
    unfold Settings.variablesAt
    rw [Settings.read?_defaultsFile rfl]
    rfl
  have settings : Settings.load misconfigured.site [] = .ok Settings.default := by
    unfold Settings.load
    rw [nothing]
    decide +kernel
  have loaded : misconfigured.settingsOrLoaded = .ok Settings.default := by
    change (Settings.load misconfigured.site []).mapError _ = _
    rw [settings]
    rfl
  unfold Application.properties
  rw [loaded]
  unfold Settings.properties Settings.default
  dsimp only [Except.bind]
  rw [nothing]
  decide +kernel

def unrooted : ClientOrder where
  variant := .classic
  interface := ⟨"org.acme", "EchoClient", none, none⟩
  baseUri := some "http://b"
  owner := some "p"
  providers := []
  root := none
  source := none

open scoped Sample in
theorem create_unrecorded :
    let outcome := unrooted.create .initial (.within Sample.library (.empty []) []) (.ofInt 0)
      misconfigured (⟨"", [], .fresh false⟩ : Scene HttpClientBuilder)
    outcome.1 = .error (.shared (.config (.invalidKey "rest-client.oops"))) ∧
      outcome.2.2.log = [] := by
  intro outcome
  have malformed : ConfigRoot.ofProperties [("rest-client.oops", "1")] =
      .error (.invalidKey "rest-client.oops") := rfl
  have refused := (unrooted.setup_eq_config_iff misconfigured .initial
    (.within Sample.library (.empty []) []) (.invalidKey "rest-client.oops")).mpr
    ⟨rfl, rfl, _, properties_misconfigured, malformed⟩
  dsimp only [outcome]
  unfold create
  rcases prepared : (unrooted.setup .initial (.within Sample.library (.empty []) [])).run misconfigured
    with ⟨e | setup, after⟩
  · rw [prepared] at refused
    cases refused
    exact ⟨rfl, rfl⟩
  · rw [prepared] at refused
    cases refused

end ClientOrder

end ClientWiring
