import ClientWiring.Class.Sample
import ClientWiring.Formats.Library
import ClientWiring.Proofs.Stateful
import ClientWiring.Proofs.Wiring.Resolution
set_option autoImplicit false

/-! Carrying out a plan on a builder, without the scene around it. A construction is its plan,
carried out, and then the building: the prefix in force and the records change neither the result nor
the builder, and the result alone decides what is recorded. -/

namespace ClientWiring

namespace Plan

section Outcome

variable {β ρ : Type} [ClientBuilder β ρ]

/-- The builder after a plan, and whether all of the plan was carried out. The first fault ends it,
and so does the first call that the builder refuses. -/
def outcome : Plan → β → Except WiringError Unit × β
  | [], builder => (.ok (), builder)
  | .ok call :: rest, builder =>
    match ClientBuilder.apply call builder with
    | .ok told => outcome rest told
    | .error e => (.error e, builder)
  | .error e :: _, builder => (.error e, builder)

def constructed (plan : Plan) (interface : ClientInterface) (builder : β) :
    Except WiringError ρ × β :=
  match plan.outcome builder with
  | (.error e, told) => (.error e, told)
  | (.ok (), told) =>
    match ClientBuilder.build interface told with
    | .ok (result, built) => (.ok result, built)
    | .error e => (.error e, told)

@[simp] theorem outcome_nil (builder : β) : outcome [] builder = (.ok (), builder) := rfl

@[simp] theorem outcome_error (e : WiringError) (rest : Plan) (builder : β) :
    outcome (.error e :: rest) builder = (.error e, builder) := rfl

theorem outcome_ok (call : BuilderCall) (rest : Plan) (builder : β) :
    outcome (.ok call :: rest) builder =
      match ClientBuilder.apply call builder with
      | .ok told => outcome rest told
      | .error e => (.error e, builder) := rfl

theorem exists_next_of_outcome {call : BuilderCall} {rest : Plan} {builder told : β}
    (carried : outcome (.ok call :: rest) builder = (.ok (), told)) :
    ∃ next, ClientBuilder.apply call builder = .ok next ∧ rest.outcome next = (.ok (), told) := by
  rw [outcome_ok] at carried
  cases answer : ClientBuilder.apply call builder with
  | error e =>
      rw [answer] at carried
      cases carried
  | ok next =>
      rw [answer] at carried
      exact ⟨next, rfl, carried⟩

theorem outcome_append (first second : Plan) (builder : β) :
    outcome (first ++ second) builder =
      match outcome first builder with
      | (.ok (), told) => outcome second told
      | (.error e, told) => (.error e, told) := by
  induction first generalizing builder with
  | nil => rfl
  | cons instruction rest ih =>
      cases instruction with
      | error e => rfl
      | ok call =>
          rw [List.cons_append, outcome_ok, outcome_ok]
          cases ClientBuilder.apply call builder with
          | error e => rfl
          | ok told => exact ih told

/-- A plan that is carried out has no fault. -/
theorem faultless_of_outcome {plan : Plan} {builder told : β}
    (carried : plan.outcome builder = (.ok (), told)) : plan.fault? = none := by
  induction plan generalizing builder with
  | nil => rfl
  | cons instruction rest ih =>
      cases instruction with
      | error e => cases carried
      | ok call =>
          obtain ⟨next, -, carried⟩ := exists_next_of_outcome carried
          exact ih carried

theorem run_tell (call : BuilderCall) (scene : Scene β) :
    (Step.tell call : Step β Unit).run scene =
      match ClientBuilder.apply call scene.builder with
      | .ok told => (.ok (), { scene with builder := told })
      | .error e => (.error e, scene) := by
  change (Step.ofExcept id (ClientBuilder.apply call scene.builder) >>=
    fun told => set { scene with builder := told } : Step β Unit).run scene = _
  cases ClientBuilder.apply call scene.builder <;> rfl

theorem run_build (interface : ClientInterface) (scene : Scene β) :
    (Step.build interface : Step β ρ).run scene =
      match ClientBuilder.build interface scene.builder with
      | .ok (result, built) => (.ok result, { scene with builder := built })
      | .error e => (.error e, scene) := by
  change (Step.ofExcept id (ClientBuilder.build interface scene.builder) >>=
    fun answer => (do set { scene with builder := answer.2 }; pure answer.1) :
      Step β ρ).run scene = _
  cases ClientBuilder.build interface scene.builder <;> rfl

/-- A plan acts on the builder of a scene and on nothing else. -/
theorem run_perform (plan : Plan) (scene : Scene β) :
    (plan.perform : Step β Unit).run scene =
      ((plan.outcome scene.builder).1,
        { scene with builder := (plan.outcome scene.builder).2 }) := by
  induction plan generalizing scene with
  | nil => rfl
  | cons instruction rest ih =>
      cases instruction with
      | error e => rfl
      | ok call =>
          have told : (Step.tell call : Step β Unit).run scene = _ := run_tell call scene
          rw [perform_ok, outcome_ok]
          cases answer : ClientBuilder.apply call scene.builder with
          | error e =>
              rw [answer] at told
              exact Stateful.run_bind_error told
          | ok next =>
              rw [answer] at told
              rw [Stateful.run_bind_ok told]
              exact ih _

end Outcome

end Plan

def Audit.records {ρ : Type} (audit : Audit) (elapsed : Double) (clientPrefix : String) :
    Except WiringError ρ → List Emitted
  | .ok _ => [⟨audit.successRecord elapsed, clientPrefix⟩]
  | .error (.config error) => [⟨audit.failureRecord error, audit.owner⟩]
  | .error _ => []

namespace Setup

variable {β ρ : Type} [ClientBuilder β ρ] [UrlReader] [StoreLibrary]

/-- The stages and the building, run one after the other, construct what the plan says. -/
theorem run_stages (setup : Setup) (scene : Scene β) :
    (do (setup.variant.stages.map setup.step).forM id; Step.build setup.interface :
      Step β ρ).run scene =
      ((setup.plan.constructed setup.interface scene.builder).1,
        { scene with
          builder := (setup.plan.constructed setup.interface scene.builder).2 }) := by
  have steps : ((setup.variant.stages.map setup.step).forM id : Step β Unit) =
      Plan.perform setup.plan := setup.steps_eq_perform setup.variant.stages
  have performed : (Plan.perform setup.plan : Step β Unit).run scene = _ :=
    Plan.run_perform setup.plan scene
  rw [← steps] at performed
  unfold Plan.constructed
  rcases carried : setup.plan.outcome scene.builder with ⟨_ | ⟨⟩, told⟩
  · rw [carried] at performed
    exact Stateful.run_bind_error performed
  · rw [carried] at performed
    rw [Stateful.run_bind_ok performed, Plan.run_build]
    dsimp only
    cases ClientBuilder.build setup.interface told <;> rfl

/-- A construction has the result of its plan, leaves the builder that the plan leaves, and records
the result. -/
theorem run_create (setup : Setup) (elapsed : Double) (scene : Scene β) :
    let constructed := setup.plan.constructed setup.interface scene.builder
    (setup.create elapsed : Step β ρ).run scene =
      (constructed.1,
        { clientPrefix := scene.clientPrefix
          log := scene.log ++ setup.audit.records elapsed scene.clientPrefix constructed.1
          builder := constructed.2 }) := by
  intro constructed
  have inside : (do (setup.variant.stages.map setup.step).forM id; Step.build setup.interface :
      Step β ρ) { scene with clientPrefix := setup.audit.owner } =
        (constructed.1, ⟨setup.audit.owner, scene.log, constructed.2⟩) :=
    setup.run_stages { scene with clientPrefix := setup.owner }
  unfold create construct
  dsimp only [ExceptT.run]
  rw [inside]
  rcases constructed.1 with e | built
  · cases e with
    | config error => rfl
    | _ =>
        dsimp only [Audit.records]
        rw [List.append_nil]
  · rfl

/-- A construction has the result of its plan and leaves the builder that the plan leaves, whatever
stands around them in the scene. -/
theorem create_eq_constructed (setup : Setup) (elapsed : Double) (scene : Scene β) :
    (((setup.create elapsed : Step β ρ).run scene).1,
      ((setup.create elapsed : Step β ρ).run scene).2.builder) =
      setup.plan.constructed setup.interface scene.builder := by
  rw [run_create]

end Setup

/-! ### A setup to try -/

def Sample.registry : Registry :=
  Registry.initial ++ [("local", verifier "Localhost" isLocal)]

def Sample.setup (variant : Variant) (properties : Dictionary String) : Setup where
  variant := variant
  interface := ⟨"acme", "Echo", none, none⟩
  annotationUri := some "http://localhost"
  owner := "echo"
  annotationProviders := []
  root := none
  source := ⟨properties⟩
  registry := Sample.registry
  around := .within library (.empty []) []

end ClientWiring
