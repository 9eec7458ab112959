set_option autoImplicit false

/-! Running computations that change a state and can fail. A failure ends a sequence, and the state
is then the one in which it happened. -/

namespace ClientWiring.Stateful

variable {ε σ α γ : Type}

theorem run_bind (first : ExceptT ε (StateM σ) α) (next : α → ExceptT ε (StateM σ) γ)
    (state : σ) :
    (first >>= next).run state =
      (ExceptT.bindCont next (first.run state).1).run (first.run state).2 := rfl

theorem run_bind_ok {first : ExceptT ε (StateM σ) α} {next : α → ExceptT ε (StateM σ) γ}
    {state after : σ} {a : α} (ran : first.run state = (.ok a, after)) :
    (first >>= next).run state = (next a).run after := by
  rw [run_bind, ran]
  rfl

theorem run_bind_error {first : ExceptT ε (StateM σ) α} {next : α → ExceptT ε (StateM σ) γ}
    {state after : σ} {e : ε} (ran : first.run state = (.error e, after)) :
    (first >>= next).run state = (.error e, after) := by
  rw [run_bind, ran]
  rfl

theorem run_get_bind (next : σ → ExceptT ε (StateM σ) γ) (state : σ) :
    (get >>= next).run state = (next state).run state := rfl

end ClientWiring.Stateful
