import ClientWiring.Wiring.Stage
set_option autoImplicit false

/-! The plan of a construction: what a builder is told, worked out from the configuration alone. A
plan is a list of instructions, each a call or a fault; the first fault ends it. No stage looks at
the builder, so a construction with any builder carries out one and the same plan. -/

namespace ClientWiring

/-- A call to make, or the fault that ends the construction in its place. -/
abbrev Instruction := Except WiringError BuilderCall

abbrev Plan := List Instruction

namespace Plan

def calls : Plan → List BuilderCall
  | [] => []
  | .ok call :: rest => call :: calls rest
  | .error _ :: _ => []

def fault? : Plan → Option WiringError
  | [] => none
  | .ok _ :: rest => fault? rest
  | .error e :: _ => some e

def told {α : Type} (value : Except WiringError (Option α)) (calls : α → List BuilderCall) :
    Plan :=
  match value with
  | .error e => [.error e]
  | .ok none => []
  | .ok (some a) => (calls a).map .ok

def perform {β ρ : Type} [ClientBuilder β ρ] : Plan → Step β Unit
  | [] => pure ()
  | .ok call :: rest => do
    Step.tell call
    perform rest
  | .error e :: _ => Step.fail e

/-! ### Faults -/

@[simp] theorem calls_map_ok (calls : List BuilderCall) :
    Plan.calls (calls.map .ok) = calls := by
  induction calls with
  | nil => rfl
  | cons call rest ih => simp only [List.map_cons, Plan.calls, ih]

@[simp] theorem fault?_map_ok (calls : List BuilderCall) :
    fault? (calls.map .ok) = none := by
  induction calls with
  | nil => rfl
  | cons call rest ih => simp only [List.map_cons, fault?, ih]

theorem eq_calls_append_fault (plan : Plan) (e : WiringError) (first : plan.fault? = some e) :
    ∃ unreached, plan = plan.calls.map .ok ++ .error e :: unreached := by
  induction plan with
  | nil => cases first
  | cons instruction rest ih =>
      cases instruction with
      | error other =>
          cases first
          exact ⟨rest, rfl⟩
      | ok call =>
          obtain ⟨unreached, split⟩ := ih first
          refine ⟨unreached, ?_⟩
          rw [calls, List.map_cons, List.cons_append]
          exact congrArg (List.cons (.ok call)) split

theorem fault?_append (first second : Plan) :
    fault? (first ++ second) = (fault? first).or (fault? second) := by
  induction first with
  | nil => rfl
  | cons instruction rest ih =>
      cases instruction with
      | error e => rfl
      | ok call => exact ih

theorem fault?_append_eq_none (first second : Plan) :
    fault? (first ++ second) = none ↔ fault? first = none ∧ fault? second = none := by
  rw [fault?_append]
  cases fault? first <;> simp

theorem fault?_flatMap_eq_none {α : Type} (items : List α) (planOf : α → Plan) :
    fault? (items.flatMap planOf) = none ↔ ∀ item ∈ items, fault? (planOf item) = none := by
  induction items with
  | nil => simp [fault?]
  | cons item rest ih =>
      rw [List.flatMap_cons, fault?_append_eq_none, ih, List.forall_mem_cons]

theorem fault?_told_eq_none {α : Type} (value : Except WiringError (Option α))
    (calls : α → List BuilderCall) :
    fault? (told value calls) = none ↔ ∃ found, value = .ok found := by
  cases value with
  | error e => simp [told, fault?]
  | ok found => cases found <;> simp [told, fault?]

section Performing

variable {β ρ : Type} [ClientBuilder β ρ]

@[simp] theorem perform_nil : (perform [] : Step β Unit) = pure () := rfl

@[simp] theorem perform_error (e : WiringError) (rest : Plan) :
    (perform (.error e :: rest) : Step β Unit) = Step.fail e := rfl

@[simp] theorem perform_ok (call : BuilderCall) (rest : Plan) :
    (perform (.ok call :: rest) : Step β Unit) = (do Step.tell call; perform rest) := rfl

theorem perform_append (first second : Plan) :
    (perform (first ++ second) : Step β Unit) = (do perform first; perform second) := by
  induction first with
  | nil => simp
  | cons instruction rest ih =>
      cases instruction with
      | error e => rfl
      | ok call => simp [ih]

end Performing

end Plan

end ClientWiring
