import ClientWiring.Proofs.Client.Told
set_option autoImplicit false

/-! Installing a configured verifier. The class is found, it can do without arguments, an instance is
made, and the instance can verify: the first of these that fails is the error, and then the builder is
told nothing. Otherwise it is told once, of the instance that was made. A class that needs arguments is
not instantiated at all, so the makings are recorded beside the outcome. -/

namespace ClientWiring

/-! ### Parameters -/

def Parameter.Needed (parameter : Parameter) : Prop :=
  parameter.hasDefault = false ∧ parameter.kind ≠ .variadicPositional ∧
    parameter.kind ≠ .variadicKeyword

/-- The signature of the class can be read, and one of its parameters has to be given. -/
def ClassInfo.NeedsArguments (info : ClassInfo) : Prop :=
  ∃ parameters, info.parameters = .known parameters ∧
    ∃ parameter ∈ parameters, parameter.Needed

theorem Parameter.isOptional_eq_false_iff (parameter : Parameter) :
    parameter.isOptional = false ↔ parameter.Needed := by
  obtain ⟨kind, hasDefault⟩ := parameter
  cases kind <;> cases hasDefault <;> simp [isOptional, Needed, ParameterKind.isVariadic]

theorem ClassInfo.takesNoArguments_eq_false_iff (info : ClassInfo) :
    info.takesNoArguments = false ↔ info.NeedsArguments := by
  unfold takesNoArguments NeedsArguments
  cases info.parameters with
  | unknown =>
      constructor
      · intro needs
        cases needs
      · intro needs
        obtain ⟨_, read, _⟩ := needs
        cases read
  | known parameters =>
      rw [List.all_eq_false]
      constructor
      · intro some
        obtain ⟨parameter, member, needed⟩ := some
        have refused := Bool.eq_false_iff.mpr needed
        exact ⟨parameters, rfl, parameter, member, parameter.isOptional_eq_false_iff.mp refused⟩
      · intro needs
        obtain ⟨_, read, parameter, member, needed⟩ := needs
        cases read
        refine ⟨parameter, member, ?_⟩
        exact Bool.eq_false_iff.mp (parameter.isOptional_eq_false_iff.mpr needed)

/-! ### Outcomes -/

/-- What installing a verifier comes to, and the classes that are instantiated for it. -/
inductive Installs (registry : Registry) (library : Library) (name : String) :
    Except ConfigError Instance → List ClassInfo → Prop
  | unresolvable {unknown : String}
      (absent : registry.resolve library name = .error (.unresolved unknown)) :
      Installs registry library name (.error (.verifierNotFound name)) []
  | needing {info : ClassInfo} (resolved : registry.resolve library name = .ok info)
      (needs : info.NeedsArguments) :
      Installs registry library name (.error (.verifierNeedsArguments name)) []
  | raising {info : ClassInfo} {thrown : Thrown}
      (resolved : registry.resolve library name = .ok info) (free : ¬ info.NeedsArguments)
      (raised : info.construct = .error thrown) :
      Installs registry library name (.error (.verifierNotInstantiable name)) [info]
  | unverifying {info : ClassInfo} {object : Instance}
      (resolved : registry.resolve library name = .ok info) (free : ¬ info.NeedsArguments)
      (made : info.construct = .ok object)
      (uncallable : ∀ verdict, object.verifying ≠ .function verdict) :
      Installs registry library name (.error (.notAVerifier name)) [info]
  | installed {info : ClassInfo} {object : Instance}
      {verdict : String → Value → Except Thrown Value}
      (resolved : registry.resolve library name = .ok info) (free : ¬ info.NeedsArguments)
      (made : info.construct = .ok object) (callable : object.verifying = .function verdict) :
      Installs registry library name (.ok object) [info]

def ClassInfo.makeRecorded (info : ClassInfo) : StateM (List ClassInfo) (Except Thrown Instance) := do
  modify fun made => made ++ [info]
  pure info.construct

section Fresh

variable {registry : Registry} {library : Library} {name : String}

theorem run_freshVerifier_of_free {info : ClassInfo}
    (resolved : registry.resolve library name = .ok info) (free : ¬ info.NeedsArguments)
    (before : List ClassInfo) :
    (freshVerifier ClassInfo.makeRecorded registry library name).run before =
      (madeVerifier name info.construct, before ++ [info]) := by
  have takes : info.takesNoArguments = true := by
    by_contra needs
    exact free (info.takesNoArguments_eq_false_iff.mp (Bool.eq_false_iff.mpr needs))
  rw [freshVerifier, resolved]
  dsimp only
  rw [if_pos takes]
  rfl

/-- Each outcome is the one that is run into, with the instances that are made for it. -/
theorem Installs.run_freshVerifier {outcome : Except ConfigError Instance}
    {instantiated : List ClassInfo}
    (installs : Installs registry library name outcome instantiated) (before : List ClassInfo) :
    (freshVerifier ClassInfo.makeRecorded registry library name).run before =
      (outcome.mapError .config, before ++ instantiated) := by
  cases installs with
  | unresolvable absent =>
      rw [freshVerifier, absent, List.append_nil]
      rfl
  | @needing info resolved needs =>
      have refuses : ¬ info.takesNoArguments = true := by
        apply Bool.eq_false_iff.mp
        exact info.takesNoArguments_eq_false_iff.mpr needs
      rw [freshVerifier, resolved, List.append_nil]
      dsimp only
      rw [if_neg refuses]
      rfl
  | raising resolved free raised =>
      rw [run_freshVerifier_of_free resolved free, raised]
      rfl
  | @unverifying info object resolved free made uncallable =>
      rw [run_freshVerifier_of_free resolved free, made, madeVerifier]
      cases verifying : object.verifying with
      | function verdict => exact absurd verifying (uncallable verdict)
      | absent => rfl
      | notCallable typeName => rfl
  | installed resolved free made callable =>
      rw [run_freshVerifier_of_free resolved free, made, madeVerifier, callable]
      rfl

theorem Installs.unique {outcome other : Except ConfigError Instance}
    {instantiated others : List ClassInfo}
    (installs : Installs registry library name outcome instantiated)
    (again : Installs registry library name other others) :
    other = outcome ∧ others = instantiated := by
  have ran := (again.run_freshVerifier []).symm.trans (installs.run_freshVerifier [])
  obtain ⟨alike, made⟩ := Prod.mk.inj ran
  refine ⟨?_, made⟩
  cases other with
  | error e =>
      cases outcome with
      | error e' =>
          cases alike
          rfl
      | ok object => cases alike
  | ok object =>
      cases outcome with
      | error e' => cases alike
      | ok object' =>
          cases alike
          rfl

/-- There is an outcome, unless the search for the class itself breaks. -/
theorem installs_or_failed (registry : Registry) (library : Library) (name : String) :
    (∃ outcome instantiated, Installs registry library name outcome instantiated) ∨
      ∃ cause, registry.resolve library name = .error (.failed cause) := by
  cases found : registry.resolve library name with
  | error e =>
      cases e with
      | unresolved unknown => exact .inl ⟨_, _, .unresolvable found⟩
      | failed cause => exact .inr ⟨cause, rfl⟩
  | ok info =>
      left
      by_cases needs : info.NeedsArguments
      · exact ⟨_, _, .needing found needs⟩
      cases made : info.construct with
      | error thrown => exact ⟨_, _, .raising found needs made⟩
      | ok object =>
          cases verifying : object.verifying with
          | function verdict => exact ⟨_, _, .installed found needs made verifying⟩
          | absent =>
              refine ⟨_, _, .unverifying found needs made ?_⟩
              intro verdict same
              cases verifying.symm.trans same
          | notCallable typeName =>
              refine ⟨_, _, .unverifying found needs made ?_⟩
              intro verdict same
              cases verifying.symm.trans same

/-- Recording the instances that are made changes nothing else. -/
theorem verifierInstance_eq_run (registry : Registry) (library : Library) (name : String)
    (before : List ClassInfo) :
    verifierInstance registry library name =
      ((freshVerifier ClassInfo.makeRecorded registry library name).run before).1 := by
  unfold verifierInstance freshVerifier
  cases registry.resolve library name with
  | error e => cases e <;> rfl
  | ok info =>
      dsimp only
      cases info.takesNoArguments <;> rfl

end Fresh

namespace Setup

variable {β ρ : Type} [ClientBuilder β ρ]

theorem run_installVerifier_of_ok {setup : Setup} {name : String} {object : Instance}
    (made : verifierInstance setup.registry setup.around.library name = .ok object)
    (scene : Scene β) :
    (setup.installVerifier name : Step β Unit).run scene =
      (Step.tell (.hostnameVerifier object) : Step β Unit).run scene := by
  rw [installVerifier, made]
  rfl

theorem run_installVerifier_of_error {setup : Setup} {name : String} {e : WiringError}
    (failed : verifierInstance setup.registry setup.around.library name = .error e)
    (scene : Scene β) :
    (setup.installVerifier name : Step β Unit).run scene = (.error e, scene) := by
  rw [installVerifier, failed]
  rfl

/-- Installing a verifier is all or nothing, for every builder, where the class is found or cannot be
resolved. It has one outcome. Either an instance is made that can verify, and then installing is the
one call that tells the builder of it; or the configuration is refused for the first fault, and then
the scene stays as it was. Nothing is instantiated before the last two faults. -/
theorem installVerifier_all_or_nothing (setup : Setup) (name : String) (scene : Scene β)
    (sought : ∀ cause, setup.registry.resolve setup.around.library name ≠ .error (.failed cause)) :
    ∃ outcome instantiated,
      Installs setup.registry setup.around.library name outcome instantiated ∧
      (∀ other others, Installs setup.registry setup.around.library name other others →
        other = outcome ∧ others = instantiated) ∧
      ((freshVerifier ClassInfo.makeRecorded setup.registry setup.around.library name).run []).2 =
        instantiated ∧
      (∀ object, outcome = .ok object →
        (setup.installVerifier name : Step β Unit).run scene =
          (Step.tell (.hostnameVerifier object) : Step β Unit).run scene) ∧
      (∀ e, outcome = .error e →
        (setup.installVerifier name : Step β Unit).run scene = (.error (.config e), scene)) := by
  rcases installs_or_failed setup.registry setup.around.library name with found | broken
  · obtain ⟨outcome, instantiated, installs⟩ := found
    have ran := installs.run_freshVerifier []
    have made := verifierInstance_eq_run setup.registry setup.around.library name []
    rw [ran] at made
    refine ⟨outcome, instantiated, installs, fun _ _ again => installs.unique again, ?_, ?_, ?_⟩
    · rw [ran]
      rfl
    · intro object succeeded
      rw [succeeded] at made
      exact run_installVerifier_of_ok made scene
    · intro e failed
      rw [failed] at made
      exact run_installVerifier_of_error made scene
  · obtain ⟨cause, failed⟩ := broken
    exact absurd failed (sought cause)

/-- The verifier that the sample registers is made and told to a builder that records its calls. -/
theorem installVerifier_all_or_nothing_local :
    (∀ cause, Sample.registry.resolve Sample.library "local" ≠ .error (.failed cause)) ∧
    ∃ object,
      ((Sample.setup .classic []).installVerifier "local" : Step Recording Unit).run
          ⟨"", [], .empty⟩ =
        (.ok (), ⟨"", [], ⟨[.hostnameVerifier object], []⟩⟩) := by
  have resolved : Sample.registry.resolve Sample.library "local" =
      .ok (Sample.verifier "Localhost" Sample.isLocal) := by
    rfl
  have sought : ∀ cause,
      Sample.registry.resolve Sample.library "local" ≠ .error (.failed cause) := by
    intro cause failed
    cases resolved.symm.trans failed
  obtain ⟨outcome, instantiated, -, unique, -, told, -⟩ :=
    installVerifier_all_or_nothing (Sample.setup .classic []) "local" ⟨"", [], Recording.empty⟩
      sought
  have free : ¬ (Sample.verifier "Localhost" Sample.isLocal).NeedsArguments := by
    intro needs
    obtain ⟨_, read, parameter, member, _⟩ := needs
    cases read
    cases member
  obtain ⟨same, -⟩ := unique _ _ (.installed resolved free rfl rfl)
  exact ⟨sought, _, told _ same.symm⟩

end Setup

end ClientWiring
