import ClientWiring.Class.Basic
set_option autoImplicit false

/-! Hooks: how a client holds the functions of an application that are shown its messages. A
synchronous client calls its hooks, an asynchronous one awaits what they return. A coroutine function
runs when it is awaited, and any other function when it is called. -/

namespace ClientWiring

/-- A function as a client holds it: by itself, or in a coroutine function that calls it. -/
inductive Hook where
  | bare
  | wrapped
  deriving DecidableEq, Repr

namespace Hook

/-- An asynchronous client wraps the functions that are no coroutine functions. -/
def hold (asynchronous coroutine : Bool) : Hook :=
  if !asynchronous || coroutine then .bare else .wrapped

inductive Course where
  | runs
  /-- The function is a coroutine function and nobody awaits it. -/
  | idles
  /-- The function runs, and then there is nothing to await. -/
  | breaks
  deriving DecidableEq, Repr

def course (asynchronous coroutine : Bool) : Hook → Course
  | .bare =>
    if asynchronous then if coroutine then .runs else .breaks
    else if coroutine then .idles else .runs
  | .wrapped => if asynchronous && !coroutine then .runs else .idles

/-- The error of awaiting what a function returns that is no coroutine function. -/
def unawaitable : Thrown :=
  ⟨"TypeError", "object NoneType can't be used in 'await' expression"⟩

/-- What a client has of a function, given what the function comes to when it runs. -/
def outcome {α : Type} (asynchronous coroutine : Bool) (unchanged : α)
    (ran : Except Thrown α × List String) : Except Thrown α × List String :=
  match (hold asynchronous coroutine).course asynchronous coroutine with
  | .runs => ran
  | .idles => (.ok unchanged, [])
  | .breaks => (ran.1.bind fun _ => .error unawaitable, ran.2)

/-- A function runs as it is held, except for a coroutine function in a synchronous client. -/
theorem course_hold (asynchronous coroutine : Bool) :
    (hold asynchronous coroutine).course asynchronous coroutine =
      if !asynchronous && coroutine then .idles else .runs := by
  cases asynchronous <;> cases coroutine <;> rfl

theorem outcome_of_awaited {α : Type} {asynchronous coroutine : Bool}
    (awaited : asynchronous = true ∨ coroutine = false) (unchanged : α)
    (ran : Except Thrown α × List String) :
    outcome asynchronous coroutine unchanged ran = ran := by
  rw [outcome, course_hold]
  cases awaited with
  | inl asynchronously => rw [asynchronously]; rfl
  | inr immediately => rw [immediately, Bool.and_false]; rfl

end Hook

def RequestFilter.heldIn (asynchronous : Bool) (filter : RequestFilter) : RequestFilter :=
  { filter with
    run := fun method headers =>
      Hook.outcome asynchronous filter.asynchronous headers (filter.run method headers) }

def ResponseFilter.heldIn (asynchronous : Bool) (filter : ResponseFilter) : ResponseFilter :=
  { filter with
    run := fun status =>
      Hook.outcome asynchronous filter.asynchronous () (filter.run status) }

theorem RequestFilter.heldIn_eq_self {asynchronous : Bool} {filter : RequestFilter}
    (awaited : asynchronous = true ∨ filter.asynchronous = false) :
    filter.heldIn asynchronous = filter := by
  simp only [heldIn, Hook.outcome_of_awaited awaited]

theorem ResponseFilter.heldIn_eq_self {asynchronous : Bool} {filter : ResponseFilter}
    (awaited : asynchronous = true ∨ filter.asynchronous = false) :
    filter.heldIn asynchronous = filter := by
  simp only [heldIn, Hook.outcome_of_awaited awaited]

end ClientWiring
