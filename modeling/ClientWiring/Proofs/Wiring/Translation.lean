import ClientWiring.Proofs.Wiring.Resolved
import ClientWiring.Proofs.Wiring.Run
set_option autoImplicit false

/-! What a construction tells a builder: every setting that has a value once, in the order of the
kind of client, and nothing else. A recording builder shows it, as it refuses no call. -/

namespace ClientWiring

namespace Plan

/-- A recording takes every call before the first fault. -/
theorem outcome_recording (plan : Plan) (recording : Recording) :
    plan.outcome recording =
      (match plan.fault? with | some e => .error e | none => .ok (),
        { recording with calls := recording.calls ++ plan.calls }) := by
  induction plan generalizing recording with
  | nil => simp [outcome, fault?, calls]
  | cons instruction rest ih =>
      cases instruction with
      | error e => simp [outcome, fault?, calls]
      | ok call =>
          change outcome rest { recording with calls := recording.calls ++ [call] } = _
          rw [ih]
          simp [fault?, calls]

/-- A recording is built once, after all calls, unless there is a fault. -/
theorem constructed_recording (plan : Plan) (interface : ClientInterface)
    (recording : Recording) :
    plan.constructed interface recording =
      match plan.fault? with
      | some e => (.error e, { recording with calls := recording.calls ++ plan.calls })
      | none => (.ok (), ⟨recording.calls ++ plan.calls, recording.built ++ [interface]⟩) := by
  unfold constructed
  rw [outcome_recording]
  cases plan.fault? <;> rfl

end Plan

namespace Setup

/-- A construction with a recording builder succeeds exactly if all settings resolve. Then the
builder is told what they resolve to, in order, and builds once. A construction that fails has made
the calls of its plan up to the fault, and builds nothing. -/
theorem create_records [UrlReader] [StoreLibrary] (setup : Setup) (elapsed : Double)
    (scene : Scene Recording) :
    let run := (setup.create elapsed : Step Recording Unit).run scene
    (run.1 = .ok () ↔ Nonempty setup.Resolved) ∧
    (∀ settled : setup.Resolved,
      run.2.builder =
        ⟨scene.builder.calls ++ settled.calls, scene.builder.built ++ [setup.interface]⟩) ∧
    (∀ fault, run.1 = .error fault →
      ∃ made unreached,
        setup.plan = made.map .ok ++ .error fault :: unreached ∧
        run.2.builder = ⟨scene.builder.calls ++ made, scene.builder.built⟩) := by
  intro run
  have whole : (run.1, run.2.builder) = setup.plan.constructed setup.interface scene.builder :=
    setup.create_eq_constructed elapsed scene
  rw [Plan.constructed_recording] at whole
  cases first : setup.plan.fault? with
  | none =>
      rw [first] at whole
      obtain ⟨result, builder⟩ := Prod.mk.inj whole
      refine ⟨⟨fun _ => setup.resolved_of_faultless first, fun _ => result⟩, ?_, ?_⟩
      · intro settled
        rw [builder, settled.plan_eq, Plan.calls_map_ok]
      · intro fault failed
        rw [result] at failed
        cases failed
  | some e =>
      rw [first] at whole
      obtain ⟨result, builder⟩ := Prod.mk.inj whole
      have unresolved : ¬ Nonempty setup.Resolved := by
        rw [← setup.faultless_iff_resolved, first]
        exact nofun
      refine ⟨⟨fun succeeded => ?_, fun resolved => absurd resolved unresolved⟩, ?_, ?_⟩
      · rw [result] at succeeded
        cases succeeded
      · exact fun settled => absurd ⟨settled⟩ unresolved
      · intro fault failed
        rw [result] at failed
        cases failed
        obtain ⟨unreached, split⟩ := setup.plan.eq_calls_append_fault e first
        exact ⟨setup.plan.calls, unreached, split, builder⟩

end Setup

end ClientWiring
