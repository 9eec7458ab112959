import ClientWiring.Log.Record
import ClientWiring.Proofs.Dictionary
import ClientWiring.Proofs.Wiring.Run
set_option autoImplicit false

/-! How a construction conducts itself, whatever its steps do. The steps run in order up to the first
that fails, and the building runs once after all of them; the prefix of the client is in force
meanwhile, and the one before is in force again at the end. A refused configuration leaves one record
under the client's prefix, a success one under the prefix before, any other failure none. Steps may
themselves be constructions: these keep the prefix and add to the records. -/

namespace ClientWiring

namespace Scene

variable {β : Type}

def under (scene : Scene β) (clientPrefix : String) : Scene β :=
  { scene with clientPrefix := clientPrefix }

def emit (scene : Scene β) (record : LogRecord) : Scene β :=
  { scene with log := scene.log ++ [⟨record, scene.clientPrefix⟩] }

end Scene

namespace Step

variable {β ρ : Type}

inductive Succeed : List (Step β Unit) → Scene β → Scene β → Prop
  | none (scene : Scene β) : Succeed [] scene scene
  | next {step : Step β Unit} {rest : List (Step β Unit)} {before middle after : Scene β}
      (ran : step.run before = (.ok (), middle)) (later : Succeed rest middle after) :
      Succeed (step :: rest) before after

/-- What steps and then a building come to: the failure of the first step that fails, and else the
result of the building. -/
inductive Attempt (steps : List (Step β Unit)) (build : Step β ρ) (before : Scene β) :
    Except WiringError ρ → Scene β → Prop
  | stopped {done unreached : List (Step β Unit)} {failing : Step β Unit} {middle after : Scene β}
      {e : WiringError} (split : steps = done ++ failing :: unreached)
      (succeeded : Succeed done before middle) (failed : failing.run middle = (.error e, after)) :
      Attempt steps build before (.error e) after
  | reached {middle after : Scene β} {result : Except WiringError ρ}
      (succeeded : Succeed steps before middle) (builds : build.run middle = (result, after)) :
      Attempt steps build before result after

def runAll (steps : List (Step β Unit)) (build : Step β ρ) : Step β ρ := do
  steps.forM id
  build

theorem runAll_nil (build : Step β ρ) : runAll [] build = build := rfl

theorem runAll_cons (step : Step β Unit) (rest : List (Step β Unit)) (build : Step β ρ) :
    runAll (step :: rest) build = (do step; runAll rest build) := by
  unfold runAll
  change ((step >>= fun _ => rest.forM id) >>= fun _ => build) = _
  rw [bind_assoc]

theorem run_runAll_append {done : List (Step β Unit)} {before middle : Scene β}
    (succeeded : Succeed done before middle) (rest : List (Step β Unit)) (build : Step β ρ) :
    (runAll (done ++ rest) build).run before = (runAll rest build).run middle := by
  induction succeeded with
  | none scene => rfl
  | next ran _ ih =>
      rw [List.cons_append, runAll_cons, Stateful.run_bind_ok ran]
      exact ih

theorem Attempt.cons {step : Step β Unit} {rest : List (Step β Unit)} {build : Step β ρ}
    {before middle after : Scene β} {result : Except WiringError ρ}
    (ran : step.run before = (.ok (), middle)) (attempt : Attempt rest build middle result after) :
    Attempt (step :: rest) build before result after := by
  cases attempt with
  | stopped split succeeded failed =>
      subst split
      exact .stopped rfl (.next ran succeeded) failed
  | reached succeeded builds => exact .reached (.next ran succeeded) builds

/-- Running steps and then a building is an attempt, and the only one. -/
theorem run_runAll_eq_iff (steps : List (Step β Unit)) (build : Step β ρ) (before : Scene β)
    (result : Except WiringError ρ) (after : Scene β) :
    (runAll steps build).run before = (result, after) ↔
      Attempt steps build before result after := by
  constructor
  · intro ran
    -- Induction on the steps, from whatever scene the steps before have left.
    induction steps generalizing before with
    | nil => exact .reached (.none before) ran
    | cons step rest ih =>
        rw [runAll_cons] at ran
        rcases first : step.run before with ⟨error | ⟨⟩, middle⟩
        · rw [Stateful.run_bind_error first] at ran
          cases ran
          exact .stopped (List.nil_append _).symm (.none before) first
        · rw [Stateful.run_bind_ok first] at ran
          exact (ih middle ran).cons first
  · intro attempt
    cases attempt with
    | stopped split succeeded failed =>
        rw [split, run_runAll_append succeeded, runAll_cons]
        exact Stateful.run_bind_error failed
    | reached succeeded builds =>
        rw [← List.append_nil steps, run_runAll_append succeeded, runAll_nil]
        exact builds

/-- Steps that leave the prefix in force as it was, and the records that are there where they are. -/
structure Orderly {α : Type} (step : Step β α) : Prop where
  keepsPrefix : ∀ scene, (step.run scene).2.clientPrefix = scene.clientPrefix
  extendsLog : ∀ scene, scene.log <+: (step.run scene).2.log

theorem orderly_of_builder {α : Type} {step : Step β α}
    (acts : ∀ scene, ∃ result builder, step.run scene = (result, { scene with builder := builder })) :
    step.Orderly where
  keepsPrefix scene := by
    obtain ⟨result, builder, ran⟩ := acts scene
    rw [ran]
  extendsLog scene := by
    obtain ⟨result, builder, ran⟩ := acts scene
    rewrite [ran]
    exact List.prefix_rfl

def within {γ α : Type} (builder : β) (inner : Step β α) : Step γ α := fun scene =>
  let (result, after) := inner.run ⟨scene.clientPrefix, scene.log, builder⟩
  (result, { scene with clientPrefix := after.clientPrefix, log := after.log })

theorem within_orderly {γ α : Type} {inner : Step β α} (orderly : inner.Orderly) (builder : β) :
    (within builder inner : Step γ α).Orderly where
  keepsPrefix scene := orderly.keepsPrefix ⟨scene.clientPrefix, scene.log, builder⟩
  extendsLog scene := orderly.extendsLog ⟨scene.clientPrefix, scene.log, builder⟩

theorem Orderly.bind {α γ : Type} {first : Step β α} {next : α → Step β γ}
    (orderly : first.Orderly) (nextOrderly : ∀ a, (next a).Orderly) : (first >>= next).Orderly := by
  constructor
  · intro scene
    have kept := orderly.keepsPrefix scene
    rcases ran : first.run scene with ⟨error | a, middle⟩
    · rw [Stateful.run_bind_error ran]
      rwa [ran] at kept
    · rw [ran] at kept
      rw [Stateful.run_bind_ok ran, (nextOrderly a).keepsPrefix]
      exact kept
  · intro scene
    have extended := orderly.extendsLog scene
    rcases ran : first.run scene with ⟨error | a, middle⟩
    · rw [Stateful.run_bind_error ran]
      rwa [ran] at extended
    · rw [ran] at extended
      rw [Stateful.run_bind_ok ran]
      exact extended.trans ((nextOrderly a).extendsLog middle)

theorem runAll_orderly {steps : List (Step β Unit)} {build : Step β ρ}
    (orderly : ∀ step ∈ steps, step.Orderly) (buildOrderly : build.Orderly) :
    (runAll steps build).Orderly := by
  induction steps with
  | nil => exact buildOrderly
  | cons step rest ih =>
      obtain ⟨first, others⟩ := List.forall_mem_cons.mp orderly
      rw [runAll_cons]
      exact first.bind fun _ => ih others

theorem Attempt.orderly {steps : List (Step β Unit)} {build : Step β ρ} {before after : Scene β}
    {result : Except WiringError ρ} (attempt : Attempt steps build before result after)
    (orderly : ∀ step ∈ steps, step.Orderly) (buildOrderly : build.Orderly) :
    after.clientPrefix = before.clientPrefix ∧ before.log <+: after.log := by
  have ran := (run_runAll_eq_iff _ _ _ _ _).mpr attempt
  have kept := (runAll_orderly orderly buildOrderly).keepsPrefix before
  have extended := (runAll_orderly orderly buildOrderly).extendsLog before
  rw [ran] at kept extended
  exact ⟨kept, extended⟩

end Step

inductive Conducted {β ρ : Type} (audit : Audit) (elapsed : Double) (steps : List (Step β Unit))
    (build : Step β ρ) (scene : Scene β) : Except WiringError ρ → Scene β → Prop
  | built {result : ρ} {inner : Scene β}
      (attempt : Step.Attempt steps build (scene.under audit.owner) (.ok result) inner) :
      Conducted audit elapsed steps build scene (.ok result)
        ((inner.under scene.clientPrefix).emit (audit.successRecord elapsed))
  | refused {error : ConfigError} {inner : Scene β}
      (attempt : Step.Attempt steps build (scene.under audit.owner) (.error (.config error)) inner) :
      Conducted audit elapsed steps build scene (.error (.config error))
        ((inner.emit (audit.failureRecord error)).under scene.clientPrefix)
  | failed {error : WiringError} {inner : Scene β}
      (attempt : Step.Attempt steps build (scene.under audit.owner) (.error error) inner)
      (foreign : ∀ cause, error ≠ .config cause) :
      Conducted audit elapsed steps build scene (.error error) (inner.under scene.clientPrefix)

section Construct

variable {β ρ : Type} {audit : Audit} {elapsed : Double} {steps : List (Step β Unit)}
  {build : Step β ρ} {scene after : Scene β} {result : Except WiringError ρ}

theorem exists_conducted {inner : Scene β}
    (attempt : Step.Attempt steps build (scene.under audit.owner) result inner) :
    ∃ after, Conducted audit elapsed steps build scene result after := by
  cases result with
  | ok built => exact ⟨_, .built attempt⟩
  | error error =>
      by_cases expected : ∃ cause, error = .config cause
      · obtain ⟨cause, rfl⟩ := expected
        exact ⟨_, .refused attempt⟩
      · exact ⟨_, .failed attempt fun cause same => expected ⟨cause, same⟩⟩

theorem run_of_conducted (conducted : Conducted audit elapsed steps build scene result after) :
    (construct audit elapsed steps build).run scene = (result, after) := by
  have body {result : Except WiringError ρ} {inner : Scene β}
      (attempt : Step.Attempt steps build (scene.under audit.owner) result inner) :
      (do steps.forM id; build : Step β ρ) { scene with clientPrefix := audit.owner } =
        (result, inner) :=
    (Step.run_runAll_eq_iff steps build _ result inner).mpr attempt
  unfold construct
  dsimp only [ExceptT.run]
  cases conducted with
  | built attempt =>
      rw [body attempt]
      rfl
  | refused attempt =>
      rw [body attempt]
      rfl
  | @failed error inner attempt foreign =>
      rw [body attempt]
      cases error with
      | config cause => exact absurd rfl (foreign cause)
      | _ => rfl

theorem run_construct_eq_iff :
    (construct audit elapsed steps build).run scene = (result, after) ↔
      Conducted audit elapsed steps build scene result after := by
  refine ⟨?_, run_of_conducted⟩
  intro ran
  rcases inside : (Step.runAll steps build).run (scene.under audit.owner) with ⟨outcome, inner⟩
  have attempt := (Step.run_runAll_eq_iff _ _ _ _ _).mp inside
  -- The attempt that was made leads to one conduct, and its run is the run that was observed.
  obtain ⟨left, conducted⟩ : ∃ left, Conducted audit elapsed steps build scene outcome left :=
    exists_conducted attempt
  have same := run_of_conducted conducted
  rw [ran] at same
  cases same
  exact conducted

/-- The prefix that was in force before a construction is in force after it, whatever its steps
do. -/
theorem Conducted.clientPrefix_eq
    (conducted : Conducted audit elapsed steps build scene result after) :
    after.clientPrefix = scene.clientPrefix := by
  cases conducted <;> rfl

theorem Conducted.log_extends (conducted : Conducted audit elapsed steps build scene result after)
    (orderly : ∀ step ∈ steps, step.Orderly) (buildOrderly : build.Orderly) :
    scene.log <+: after.log := by
  cases conducted with
  | built attempt =>
      exact (attempt.orderly orderly buildOrderly).2.trans (List.prefix_append _ _)
  | refused attempt =>
      exact (attempt.orderly orderly buildOrderly).2.trans (List.prefix_append _ _)
  | failed attempt _ => exact (attempt.orderly orderly buildOrderly).2

theorem construct_orderly (orderly : ∀ step ∈ steps, step.Orderly) (buildOrderly : build.Orderly) :
    (construct audit elapsed steps build).Orderly where
  keepsPrefix _ := (run_construct_eq_iff.mp rfl).clientPrefix_eq
  extendsLog _ := (run_construct_eq_iff.mp rfl).log_extends orderly buildOrderly

end Construct

/-! ### What is written -/

namespace LogRecord

def coreNames : List String := ["timestamp", "level", "logger", "message", "client_prefix"]

structure HidesNothing (record : LogRecord) : Prop where
  distinct : (Dictionary.keys record.audit).Nodup
  apart : ∀ name ∈ coreNames, name ∉ Dictionary.keys record.audit

theorem HidesNothing.get?_fields {record : LogRecord} (plain : record.HidesNothing)
    (timestamp clientPrefix : String) {name : String} (core : name ∈ coreNames) :
    (record.fields timestamp clientPrefix).get? name =
      (record.coreFields timestamp clientPrefix).get? name := by
  have absent := (Dictionary.get?_eq_none_iff record.audit name).mpr (plain.apart name core)
  have merged : ((record.coreFields timestamp clientPrefix).merge record.audit).get? name =
      (record.coreFields timestamp clientPrefix).get? name := by
    rw [Dictionary.get?_merge _ plain.distinct, absent]
    rfl
  unfold fields
  cases record.error with
  | none => exact merged
  | some error =>
      have noError : "error" ∉ coreNames := by decide
      have different : "error" ≠ name := fun same => noError (same ▸ core)
      dsimp only
      rw [Dictionary.get?_insert, if_neg different, merged]

end LogRecord

theorem Audit.failureRecord_hidesNothing (audit : Audit) (error : ConfigError) :
    (audit.failureRecord error).HidesNothing := by
  have keys : Dictionary.keys (audit.failureRecord error).audit =
      ["prefix", "interface", "variant", "typed_config"] := rfl
  constructor <;> (rw [keys]; decide)

theorem Audit.successRecord_hidesNothing (audit : Audit) (elapsed : Double) :
    (audit.successRecord elapsed).HidesNothing := by
  have keys : Dictionary.keys (audit.successRecord elapsed).audit =
      ["prefix", "interface", "variant", "typed_config", "latency_ms"] := rfl
  constructor <;> (rw [keys]; decide)

/-! ### Constructions of clients -/

section Create

variable {β ρ : Type} [ClientBuilder β ρ]

theorem Plan.perform_orderly (plan : Plan) : (plan.perform : Step β Unit).Orderly :=
  Step.orderly_of_builder fun scene => ⟨_, _, Plan.run_perform plan scene⟩

theorem Step.build_orderly (interface : ClientInterface) :
    (Step.build interface : Step β ρ).Orderly := by
  refine Step.orderly_of_builder fun scene => ?_
  rw [Plan.run_build]
  cases ClientBuilder.build interface scene.builder with
  | ok answer => exact ⟨.ok answer.1, answer.2, rfl⟩
  | error e => exact ⟨.error e, scene.builder, rfl⟩

theorem Setup.create_orderly [UrlReader] [StoreLibrary] (setup : Setup) (elapsed : Double) :
    (setup.create elapsed : Step β ρ).Orderly := by
  refine construct_orderly ?_ (Step.build_orderly setup.interface)
  intro step listed
  obtain ⟨stage, -, rfl⟩ := List.mem_map.mp listed
  rw [setup.step_eq_perform]
  exact Plan.perform_orderly _

end Create

/-- A construction is all or nothing, and restores its context. It comes to what its steps and its
building come to, the first failure ending it; the prefix before is in force again in any case. If
the steps restore the prefix as well, then the construction can be such a step of another one, and a
refused configuration leaves one record more than its steps did, which is written under the prefix
of the client. -/
theorem construct_conducts {β ρ : Type} (audit : Audit) (elapsed : Double)
    (steps : List (Step β Unit)) (build : Step β ρ) (scene after : Scene β)
    (result : Except WiringError ρ) :
    ((construct audit elapsed steps build).run scene = (result, after) ↔
      Conducted audit elapsed steps build scene result after) ∧
    (Conducted audit elapsed steps build scene result after →
      after.clientPrefix = scene.clientPrefix) ∧
    ((∀ step ∈ steps, step.Orderly) → build.Orderly →
      (∀ (γ : Type) (builder : β),
        (Step.within builder (construct audit elapsed steps build) : Step γ ρ).Orderly) ∧
      ∀ error, Conducted audit elapsed steps build scene (.error (.config error)) after →
        ∃ inner, Step.Attempt steps build (scene.under audit.owner) (.error (.config error)) inner ∧
          scene.log <+: inner.log ∧
          after.log = inner.log ++ [⟨audit.failureRecord error, audit.owner⟩]) ∧
    ∀ error timestamp,
      let refused := (audit.failureRecord error).fields timestamp audit.owner
      let built := (audit.successRecord elapsed).fields timestamp scene.clientPrefix
      refused.get? "level" = some (.text "ERROR") ∧
        refused.get? "message" = some (.text "REST client configuration failed") ∧
        refused.get? "client_prefix" = some (.text audit.owner) ∧
        built.get? "message" = some (.text "REST client built") := by
  refine ⟨run_construct_eq_iff, Conducted.clientPrefix_eq, ?_, ?_⟩
  · intro orderly buildOrderly
    refine ⟨?_, ?_⟩
    · intro γ builder
      exact Step.within_orderly (construct_orderly orderly buildOrderly) builder
    · intro error conducted
      cases conducted with
      | @refused _ inner attempt =>
          obtain ⟨clientPrefix, log⟩ := attempt.orderly orderly buildOrderly
          refine ⟨inner, attempt, log, ?_⟩
          have own : inner.clientPrefix = audit.owner := clientPrefix
          rw [← own]
          rfl
      | failed _ foreign => exact absurd rfl (foreign error)
  · intro error timestamp
    have core : ∀ name ∈ ["level", "message", "client_prefix"], name ∈ LogRecord.coreNames := by
      decide
    have failure := audit.failureRecord_hidesNothing error
    have success := audit.successRecord_hidesNothing elapsed
    refine ⟨?_, ?_, ?_, ?_⟩
    · exact failure.get?_fields timestamp audit.owner (core _ (by simp))
    · exact failure.get?_fields timestamp audit.owner (core _ (by simp))
    · exact failure.get?_fields timestamp audit.owner (core _ (by simp))
    · exact success.get?_fields timestamp scene.clientPrefix (core _ (by simp))

def addressless [UrlReader] [StoreLibrary] : Step Recording Unit :=
  Step.within Recording.empty
    ({ Sample.setup .classic [] with annotationUri := none }.create (.ofInt 0) :
      Step Recording Unit)

open scoped Sample in
theorem construct_conducts_addressless :
    let audit := (Sample.setup .reactive []).audit
    let build : Step Recording Unit := Step.build default
    (∀ step ∈ [addressless], step.Orderly) ∧ build.Orderly ∧
    (Step.within Recording.empty (construct audit (.ofInt 0) [addressless] build) :
      Step Recording Unit).Orderly ∧
    ∃ error, ∃ inner after : Scene Recording,
      Conducted audit (.ofInt 0) [addressless] build ⟨"", [], .empty⟩ (.error (.config error))
        after ∧
      after.log = inner.log ++ [⟨audit.failureRecord error, audit.owner⟩] := by
  intro audit build
  have orderly : ∀ step ∈ [addressless], step.Orderly :=
    List.forall_mem_singleton.mpr (Step.within_orderly (Setup.create_orderly _ _) _)
  have buildOrderly : build.Orderly := Step.build_orderly default
  have refused : ((construct audit (.ofInt 0) [addressless] build).run ⟨"", [], .empty⟩).1 =
      .error (.config (.missingBaseUrl (typedKey "echo" "url") (typedKey "echo" "uri"))) := by
    decide +kernel
  rcases ran : (construct audit (.ofInt 0) [addressless] build).run ⟨"", [], .empty⟩ with
    ⟨result, after⟩
  rw [ran] at refused
  cases refused
  obtain ⟨conducted, -, nested, -⟩ :=
    construct_conducts audit (.ofInt 0) [addressless] build ⟨"", [], .empty⟩ after _
  obtain ⟨within, recorded⟩ := nested orderly buildOrderly
  obtain ⟨inner, -, -, log⟩ := recorded _ (conducted.mp ran)
  exact ⟨orderly, buildOrderly, within Recording Recording.empty, _, inner, after,
    conducted.mp ran, log⟩

end ClientWiring
