import Mathlib.Data.List.Induction
import ClientWiring.Class.Registry
set_option autoImplicit false

/-! A registry after a run of changes. What a configured name resolves to is governed by the changes
made under one name: the configured one without the blanks around it. The last of them decides, and
no other change matters. A change under a name with blanks around it is therefore never seen. -/

namespace ClientWiring

namespace Registration

def name : Registration → String
  | register name _ => name
  | unregister name => name

/-- The class that a change leaves under its name. -/
def info? : Registration → Option ClassInfo
  | register _ info => some info
  | unregister _ => none

def latest? (changes : List Registration) (name : String) : Option Registration :=
  changes.reverse.find? fun change => change.name == name

theorem latest?_concat (changes : List Registration) (change : Registration) (name : String) :
    latest? (changes ++ [change]) name =
      if change.name = name then some change else latest? changes name := by
  unfold latest?
  rw [List.reverse_append, List.reverse_singleton, List.singleton_append]
  by_cases same : change.name = name
  · rw [List.find?_cons_of_pos (by simpa using same), if_pos same]
  · rw [List.find?_cons_of_neg (by simpa using same), if_neg same]

/-- The last change under a name is the last one among those under this name. -/
theorem latest?_filter (changes : List Registration) (name : String) :
    latest? (changes.filter fun change => change.name == name) name = latest? changes name := by
  unfold latest?
  rw [← List.filter_reverse, List.find?_filter]
  simp only [and_self, Bool.decide_eq_true]

end Registration

namespace Registry

def after (changes : List Registration) : Registry :=
  changes.foldl apply initial

theorem get?_apply (registry : Registry) (change : Registration) (name : String) :
    (registry.apply change).get? name =
      if change.name = name then change.info? else registry.get? name := by
  cases change with
  | register own info => exact Dictionary.get?_insert registry own info name
  | unregister own => exact Dictionary.get?_erase registry own name

theorem get?_after (changes : List Registration) (name : String) :
    (after changes).get? name =
      (Registration.latest? changes name).elim (initial.get? name) Registration.info? := by
  induction changes using List.reverseRecOn with
  | nil => rfl
  | append_singleton changes change ih =>
      have step : after (changes ++ [change]) = (after changes).apply change := by
        rw [after, List.foldl_append]
        rfl
      rw [step, get?_apply, Registration.latest?_concat]
      by_cases same : change.name = name
      · rw [if_pos same, if_pos same]
        rfl
      · rw [if_neg same, if_neg same]
        exact ih

/-- Only what is registered under the name without blanks matters. -/
theorem resolve_congr {registry other : Registry} {configured : String}
    (same : registry.get? (Text.trim configured) = other.get? (Text.trim configured))
    (library : Library) :
    registry.resolve library configured = other.resolve library configured := by
  simp only [resolve, same]

/-- The changes under `name`, and no others, decide what `configured` resolves to: a class that was
registered last under it, or what any registry without the name gives if it was unregistered last,
or what the initial registry gives if it was not changed. -/
structure Governs (name configured : String) : Prop where
  registered : ∀ (changes : List Registration) (library : Library) (info : ClassInfo),
    Registration.latest? changes name = some (.register name info) →
      (after changes).resolve library configured = .ok info
  unregistered : ∀ (changes : List Registration) (library : Library) (never : Registry),
    Registration.latest? changes name = some (.unregister name) → never.get? name = none →
      (after changes).resolve library configured = never.resolve library configured
  untouched : ∀ (changes : List Registration) (library : Library),
    Registration.latest? changes name = none →
      (after changes).resolve library configured = initial.resolve library configured
  others : ∀ (changes : List Registration) (library : Library),
    (after (changes.filter fun change => change.name == name)).resolve library configured =
      (after changes).resolve library configured

theorem governs_trim (configured : String) : Governs (Text.trim configured) configured where
  registered changes library info latest := by
    have found := get?_after changes (Text.trim configured)
    rw [latest] at found
    simp only [resolve, found, Option.elim, Registration.info?]
  unregistered changes library never latest unknown := by
    apply resolve_congr
    rw [get?_after, latest, unknown]
    rfl
  untouched changes library latest := by
    apply resolve_congr
    rw [get?_after, latest]
    rfl
  others changes library := by
    apply resolve_congr
    rw [get?_after, get?_after, Registration.latest?_filter]

/-- Exactly the changes under the name without the blanks around it govern a name. -/
theorem governs_iff (name configured : String) :
    Governs name configured ↔ name = Text.trim configured := by
  constructor
  · intro governs
    by_contra other
    -- Two classes registered in turn under another name would both have to be found.
    have unseen : ∀ info, initial.resolve ⟨fun _ => .error .notFound⟩ configured = .ok info := by
      intro info
      have latest : Registration.latest? [.register name info] name =
          some (.register name info) := by
        simp [Registration.latest?, Registration.name]
      have unchanged : Registration.latest? [.register name info] (Text.trim configured) = none := by
        simp [Registration.latest?, Registration.name, other]
      rw [← (governs_trim configured).untouched _ _ unchanged]
      exact governs.registered _ _ info latest
    have same : Verifier.base = Verifier.noop := by
      have first := unseen Verifier.base
      rw [unseen Verifier.noop] at first
      exact (Except.ok.inj first).symm
    exact absurd (congrArg ClassInfo.name same) (by decide)
  · rintro rfl
    exact governs_trim configured

/-- A class registered under a name with blanks around it is not found under this name. -/
theorem resolve_padded :
    Registration.latest? [.register " acme.Alias " Verifier.base] " acme.Alias " =
        some (.register " acme.Alias " Verifier.base) ∧
      (after [.register " acme.Alias " Verifier.base]).resolve ⟨fun _ => .error .notFound⟩
        " acme.Alias " = .error (.unresolved "acme.Alias") :=
  ⟨by with_unfolding_all rfl, by with_unfolding_all rfl⟩

end Registry

end ClientWiring
