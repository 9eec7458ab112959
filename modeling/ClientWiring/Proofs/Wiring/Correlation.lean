import ClientWiring.Proofs.Client.Told
import ClientWiring.Proofs.Wiring.Conduct
set_option autoImplicit false

/-! Which client the records of a construction name. A record shows the prefix that was in force when
it was emitted. A refused configuration is recorded while the prefix of its client is in force; a
success is recorded afterwards, under the prefix before, which inside another construction is that
of the other client. -/

namespace ClientWiring

/-- A record names a client: its field for the prefix holds the client's prefix, at whatever time it
is written. -/
def Emitted.Names (emitted : Emitted) (owner : String) : Prop :=
  ∀ timestamp, (emitted.record.fields timestamp emitted.clientPrefix).get? "client_prefix" =
    some (.text owner)

theorem Emitted.names_iff {emitted : Emitted} (plain : emitted.record.HidesNothing)
    (owner : String) : emitted.Names owner ↔ emitted.clientPrefix = owner := by
  have shown (timestamp : String) :
      (emitted.record.fields timestamp emitted.clientPrefix).get? "client_prefix" =
        some (.text emitted.clientPrefix) :=
    plain.get?_fields timestamp emitted.clientPrefix (by decide)
  constructor
  · intro names
    have same := (shown "").symm.trans (names "")
    exact Value.text.inj (Option.some.inj same)
  · rintro rfl timestamp
    exact shown timestamp

namespace Audit

variable {ρ : Type} {audit : Audit} {elapsed : Double} {clientPrefix : String}

theorem records_ok (built : ρ) : audit.records elapsed clientPrefix (.ok built) =
    [⟨audit.successRecord elapsed, clientPrefix⟩] := rfl

theorem records_config (error : ConfigError) :
    audit.records elapsed clientPrefix (.error (.config error) : Except WiringError ρ) =
      [⟨audit.failureRecord error, audit.owner⟩] := rfl

theorem hidesNothing_of_mem_records {result : Except WiringError ρ} {emitted : Emitted}
    (member : emitted ∈ audit.records elapsed clientPrefix result) :
    emitted.record.HidesNothing := by
  cases result with
  | ok built =>
      rw [records_ok, List.mem_singleton] at member
      rw [member]
      exact audit.successRecord_hidesNothing elapsed
  | error e =>
      cases e with
      | config error =>
          rw [records_config, List.mem_singleton] at member
          rw [member]
          exact audit.failureRecord_hidesNothing error
      | _ => cases member

/-- All records of a construction name its client, unless it succeeds under another prefix. -/
theorem records_name_owner_iff (result : Except WiringError ρ) :
    (∀ emitted ∈ audit.records elapsed clientPrefix result, emitted.Names audit.owner) ↔
      ∀ built, result = .ok built → clientPrefix = audit.owner := by
  cases result with
  | ok built =>
      rw [records_ok, List.forall_mem_singleton,
        Emitted.names_iff (audit.successRecord_hidesNothing elapsed)]
      constructor
      · intro same _ _
        exact same
      · intro each
        exact each built rfl
  | error e =>
      refine ⟨fun _ => nofun, fun _ emitted member => ?_⟩
      refine (Emitted.names_iff (hidesNothing_of_mem_records member) audit.owner).mpr ?_
      cases e with
      | config error =>
          rw [records_config, List.mem_singleton] at member
          rw [member]
      | _ => cases member

end Audit

/-- The steps of a construction run under the prefix of its client, whatever the steps before did. -/
theorem Step.Succeed.clientPrefix_eq {β : Type} {done : List (Step β Unit)} {before after : Scene β}
    (succeeded : Step.Succeed done before after) (orderly : ∀ step ∈ done, step.Orderly) :
    after.clientPrefix = before.clientPrefix := by
  induction succeeded with
  | none scene => rfl
  | @next step rest before middle after ran _ ih =>
      obtain ⟨first, others⟩ := List.forall_mem_cons.mp orderly
      have kept := first.keepsPrefix before
      rw [ran] at kept
      exact (ih others).trans kept

/-- The records of a construction and the client that they name, in any surroundings. The construction
adds its own records to the log: one for a success or a refused configuration, none for any other
failure. They name its client exactly unless it succeeds while another prefix is in force: then the
record of the success shows that prefix. Inside the construction of another client, after steps
that restore the prefix, this is the prefix of the other client. -/
theorem Setup.create_correlates {β ρ : Type} [ClientBuilder β ρ] [UrlReader] [StoreLibrary]
    (setup : Setup) (elapsed : Double) :
    (∀ (scene after : Scene β) (result : Except WiringError ρ),
      (setup.create elapsed : Step β ρ).run scene = (result, after) →
      ∃ own : List Emitted, after.log = scene.log ++ own ∧
        ((∃ built, result = .ok built ∧ own = [⟨setup.audit.successRecord elapsed,
            scene.clientPrefix⟩]) ∨
          (∃ error, result = .error (.config error) ∧
            own = [⟨setup.audit.failureRecord error, setup.owner⟩]) ∨
          (∃ e, result = .error e ∧ (∀ error, e ≠ .config error) ∧ own = [])) ∧
        ((∀ emitted ∈ own, emitted.Names setup.owner) ↔
          ∀ built, result = .ok built → scene.clientPrefix = setup.owner)) ∧
    ∀ (γ : Type) (outer : Audit) (done : List (Step γ Unit)) (scene middle after : Scene γ)
      (builder : β) (built : ρ), (∀ step ∈ done, step.Orderly) →
      Step.Succeed done (scene.under outer.owner) middle →
      (Step.within builder (setup.create elapsed) : Step γ ρ).run middle = (.ok built, after) →
      after.log = middle.log ++ [⟨setup.audit.successRecord elapsed, outer.owner⟩] := by
  constructor
  · intro scene after result ran
    rw [setup.run_create elapsed scene] at ran
    obtain ⟨rfl, rfl⟩ := Prod.mk.inj ran
    refine ⟨_, rfl, ?_, Audit.records_name_owner_iff _⟩
    cases (setup.plan.constructed setup.interface scene.builder).1 with
    | ok built => exact .inl ⟨built, rfl, rfl⟩
    | error e =>
        right
        cases e with
        | config error => exact .inl ⟨error, rfl, rfl⟩
        | _ => exact .inr ⟨_, rfl, nofun, rfl⟩
  · intro γ outer done scene middle after builder built orderly succeeded ran
    have inForce : middle.clientPrefix = outer.owner := succeeded.clientPrefix_eq orderly
    unfold Step.within at ran
    dsimp only [ExceptT.run] at ran
    have inner := setup.run_create elapsed (⟨middle.clientPrefix, middle.log, builder⟩ : Scene β)
    dsimp only [ExceptT.run] at inner
    rw [inner] at ran
    obtain ⟨succeeds, rfl⟩ := Prod.mk.inj ran
    dsimp only at succeeds ⊢
    rw [succeeds, Audit.records_ok, inForce]

open scoped Sample in
theorem Setup.create_correlates_nested :
    let outer : Audit := { (Sample.setup .reactive []).audit with owner := "other" }
    ∃ after, (Step.within Recording.empty ((Sample.setup .classic []).create (.ofInt 0) :
        Step Recording Unit) : Step HttpClientBuilder Unit).run
          (Scene.under ⟨"", [], .fresh true⟩ outer.owner) = (.ok (), after) ∧
      after.log = [⟨(Sample.setup .classic []).audit.successRecord (.ofInt 0), "other"⟩] := by
  intro outer
  have succeeds : ((Step.within Recording.empty ((Sample.setup .classic []).create (.ofInt 0) :
      Step Recording Unit) : Step HttpClientBuilder Unit).run
        (Scene.under ⟨"", [], .fresh true⟩ outer.owner)).1.toBool = true := by
    with_unfolding_all rfl
  rcases ran : (Step.within Recording.empty ((Sample.setup .classic []).create (.ofInt 0) :
      Step Recording Unit) : Step HttpClientBuilder Unit).run
        (Scene.under ⟨"", [], .fresh true⟩ outer.owner) with ⟨e | built, after⟩
  · rw [ran] at succeeds
    cases succeeds
  · exact ⟨after, rfl, ((Sample.setup .classic []).create_correlates (.ofInt 0)).2
      HttpClientBuilder outer [] _ _ after _ built nofun (.none _) ran⟩

open scoped Sample in
/-- A client that is constructed outside every other construction. The record of its success shows no
prefix at all. -/
theorem Setup.create_uncorrelated :
    ∃ built after,
      ((Sample.setup .classic []).create (.ofInt 0) : Step Recording Unit).run
        ⟨"", [], Recording.empty⟩ = (.ok built, after) ∧
      ∃ emitted ∈ after.log, ¬ emitted.Names "echo" := by
  have succeeds : (((Sample.setup .classic []).create (.ofInt 0) : Step Recording Unit).run
      ⟨"", [], Recording.empty⟩).1.toBool = true := by
    with_unfolding_all rfl
  rcases ran : ((Sample.setup .classic []).create (.ofInt 0) : Step Recording Unit).run
      ⟨"", [], Recording.empty⟩ with ⟨e | built, after⟩
  · rw [ran] at succeeds
    cases succeeds
  · refine ⟨built, after, rfl, ?_⟩
    rw [Setup.run_create] at ran
    obtain ⟨result, rfl⟩ := Prod.mk.inj ran
    dsimp only at result ⊢
    rw [result, Audit.records_ok]
    refine ⟨_, List.mem_append_right _ (List.mem_singleton_self _), ?_⟩
    rw [Emitted.names_iff (Audit.successRecord_hidesNothing _ _)]
    decide

end ClientWiring
