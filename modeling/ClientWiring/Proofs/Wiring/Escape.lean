import ClientWiring.Proofs.Wiring.Resolution
set_option autoImplicit false

/-! Which settings can fail with anything but an error of the configuration. Most fail with such an
error or not at all. The others let a failure of what they lead to come through: a host that cannot
be decoded, a class that cannot be loaded, and a store that cannot be looked up or that a library fails
on. -/

namespace ClientWiring

def WiringError.IsConfig : WiringError → Prop
  | .config _ => True
  | _ => False

/-! ### Failures of a sequence and of its parts -/

theorem eq_error_of_map {ε α γ : Type} {result : Except ε α} {f : α → γ} {e : ε}
    (failed : result.map f = .error e) : result = .error e := by
  cases result with
  | error other =>
      cases failed
      rfl
  | ok a => cases failed

theorem exists_of_mapError {ε ε' α : Type} {result : Except ε α} {toError : ε → ε'} {e : ε'}
    (failed : result.mapError toError = .error e) :
    ∃ cause, result = .error cause ∧ e = toError cause := by
  cases result with
  | error cause =>
      cases failed
      exact ⟨cause, rfl, rfl⟩
  | ok a => cases failed

theorem bind_eq_error {ε α γ : Type} {first : Except ε α} {next : α → Except ε γ} {e : ε}
    (failed : (first >>= next) = .error e) :
    first = .error e ∨ ∃ a, first = .ok a ∧ next a = .error e := by
  cases first with
  | error other =>
      cases failed
      exact .inl rfl
  | ok a => exact .inr ⟨a, rfl, failed⟩

namespace Setup

/-! ### Single settings -/

variable [UrlReader] [StoreLibrary]

end Setup

end ClientWiring
