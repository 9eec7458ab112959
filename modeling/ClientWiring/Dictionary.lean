set_option autoImplicit false

/-! Dictionaries that remember the order in which their keys were first inserted. Inserting under a
key that is present replaces the value and keeps the place. -/

namespace ClientWiring

/-- Pairs of a key and a value, each key once, in the order of first insertion. -/
abbrev Dictionary (α : Type) := List (String × α)

namespace Dictionary

variable {α : Type}

def get? (d : Dictionary α) (key : String) : Option α :=
  (d.find? fun entry => entry.1 == key).map (·.2)

def has (d : Dictionary α) (key : String) : Bool :=
  d.any fun entry => entry.1 == key

/-- The dictionary with a value under a key: in the old place if the key is present, else last. -/
def insert (d : Dictionary α) (key : String) (value : α) : Dictionary α :=
  match d with
  | [] => [(key, value)]
  | entry :: rest =>
    if entry.1 = key then (key, value) :: rest else entry :: insert rest key value

def erase (d : Dictionary α) (key : String) : Dictionary α :=
  d.filter fun entry => entry.1 != key

def merge (d : Dictionary α) (pairs : List (String × α)) : Dictionary α :=
  pairs.foldl (fun acc entry => insert acc entry.1 entry.2) d

/-- The dictionary of a list of pairs: a repeated key keeps its first place and its last value. -/
def ofPairs (pairs : List (String × α)) : Dictionary α :=
  merge [] pairs

def keys (d : Dictionary α) : List String :=
  d.map (·.1)

@[simp] theorem get?_nil (key : String) : get? ([] : Dictionary α) key = none := rfl

theorem get?_cons (entry : String × α) (d : Dictionary α) (key : String) :
    get? (entry :: d) key = if entry.1 = key then some entry.2 else get? d key := by
  by_cases same : entry.1 = key
  · simp [get?, same]
  · simp [get?, same]

theorem get?_eq_none_iff (d : Dictionary α) (key : String) : get? d key = none ↔ key ∉ keys d := by
  induction d with
  | nil => simp [keys]
  | cons entry rest ih =>
      have members : key ∈ keys (entry :: rest) ↔ entry.1 = key ∨ key ∈ keys rest := by
        rw [keys, List.map_cons, List.mem_cons, eq_comm]
        rfl
      rw [get?_cons, members, not_or, ← ih]
      by_cases here : entry.1 = key <;> simp [here]

theorem get?_insert (d : Dictionary α) (key : String) (value : α) (other : String) :
    get? (insert d key value) other = if key = other then some value else get? d other := by
  induction d with
  | nil => by_cases same : key = other <;> simp [insert, get?_cons, same]
  | cons entry rest ih =>
      by_cases here : entry.1 = key
      · by_cases same : key = other
        · simp [insert, here, get?_cons, same]
        · simp [insert, here, get?_cons, same]
      · by_cases same : key = other
        · subst same
          simp [insert, here, get?_cons, ih]
        · simp [insert, here, get?_cons, ih, same]

theorem get?_erase (d : Dictionary α) (key other : String) :
    get? (erase d key) other = if key = other then none else get? d other := by
  induction d with
  | nil => simp [erase]
  | cons entry rest ih =>
      unfold erase at ih ⊢
      by_cases gone : entry.1 = key
      · rw [List.filter_cons_of_neg (by simpa using gone), ih, get?_cons, gone]
        split <;> rfl
      · rw [List.filter_cons_of_pos (by simpa using gone), get?_cons, get?_cons, ih]
        by_cases here : entry.1 = other
        · have different : key ≠ other := fun same => gone (here.trans same.symm)
          rw [if_pos here, if_pos here, if_neg different]
        · rw [if_neg here, if_neg here]

theorem insert_of_not_mem {d : Dictionary α} {key : String} (fresh : key ∉ keys d) (value : α) :
    insert d key value = d ++ [(key, value)] := by
  induction d with
  | nil => rfl
  | cons entry rest ih =>
      obtain ⟨other, later⟩ := not_or.mp (fun there => fresh (List.mem_cons.mpr there))
      have different : ¬ entry.1 = key := fun same => other same.symm
      rw [insert, if_neg different, ih later, List.cons_append]

theorem keys_insert (d : Dictionary α) (key : String) (value : α) :
    keys (insert d key value) = if key ∈ keys d then keys d else keys d ++ [key] := by
  induction d with
  | nil => rfl
  | cons entry rest ih =>
      by_cases here : entry.1 = key
      · simp [insert, here, keys]
      · have other : ¬ key = entry.1 := fun same => here same.symm
        have step : keys (insert (entry :: rest) key value) =
            entry.1 :: keys (insert rest key value) := by simp [insert, here, keys]
        have members : (key ∈ keys (entry :: rest)) ↔ key ∈ keys rest := by simp [keys, other]
        rw [step, ih]
        by_cases later : key ∈ keys rest
        · rw [if_pos later, if_pos (members.mpr later)]
          rfl
        · rw [if_neg later, if_neg fun there => later (members.mp there)]
          rfl

end Dictionary

end ClientWiring
