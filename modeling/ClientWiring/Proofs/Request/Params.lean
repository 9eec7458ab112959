import ClientWiring.Proofs.Dictionary
import ClientWiring.Request.Params
set_option autoImplicit false

/-! The pairs that the parameters of a call become. The first text that the runtime refuses is the
outcome in every style. Where there is none, the name of a parameter stands before each of its texts
in repeated pairs, and nothing of one parameter gets among those of another, as names are distinct.
The other two styles are told from the repeated pairs: one marks the names of sequences, and one joins
the texts of a name. -/

namespace ClientWiring

namespace Value

def parts : Value → List Value
  | null => []
  | list items => items
  | tuple items => items
  | value => [value]

def texts (value : Value) : List String :=
  value.parts.map plain

def isNull : Value → Bool
  | null => true
  | _ => false

def isSequence : Value → Bool
  | list _ => true
  | tuple _ => true
  | _ => false

end Value

namespace QueryStyle

def valuesOf (pairs : List (String × String)) (name : String) : List String :=
  (pairs.filter fun pair => pair.1 == name).map Prod.snd

theorem valuesOf_append (first second : List (String × String)) (name : String) :
    valuesOf (first ++ second) name = valuesOf first name ++ valuesOf second name := by
  simp only [valuesOf, List.filter_append, List.map_append]

theorem valuesOf_own (name : String) (texts : List String) :
    valuesOf (texts.map fun text => (name, text)) name = texts := by
  induction texts with
  | nil => rfl
  | cons text rest ih =>
      rw [List.map_cons, valuesOf, List.filter_cons, if_pos (beq_self_eq_true name), List.map_cons]
      exact congrArg (List.cons text) ih

theorem valuesOf_other {pairs : List (String × String)} {name : String}
    (absent : name ∉ pairs.map Prod.fst) : valuesOf pairs name = [] := by
  have none : pairs.filter (fun pair => pair.1 == name) = [] := by
    apply List.filter_eq_nil_iff.mpr
    intro pair member same
    apply absent
    rw [← eq_of_beq same]
    exact List.mem_map_of_mem member
  rw [valuesOf, none, List.map_nil]

/-! ### One parameter -/

def pairs (style : QueryStyle) (name : String) (value : Value) : List (String × String) :=
  match style with
  | multiPairs => value.texts.map fun text => (name, text)
  | commaSeparated => if value.isNull then [] else [(name, ",".intercalate value.texts)]
  | arrayPairs => value.texts.map fun text => (if value.isSequence then name ++ "[]" else name, text)

section Refusal

variable [Runtime]

omit [Runtime] in
/-- What is done for each item of a list, where an item may be refused, is refused with the first
refusal. -/
theorem mapM_elim {α β : Type} {f : α → Except WriteError β} {refusal? : α → Option WriteError}
    {g : α → β} (step : ∀ a, f a = (refusal? a).elim (.ok (g a)) .error) (items : List α) :
    items.mapM f = (items.findSome? refusal?).elim (.ok (items.map g)) .error := by
  induction items with
  | nil => rfl
  | cons item rest ih =>
      rw [List.mapM_cons, step, ih, List.findSome?_cons]
      cases refusal? item with
      | some e => rfl
      | none => cases rest.findSome? refusal? <;> rfl

theorem encodeParam_eq (style : QueryStyle) (name : String) (value : Value) :
    style.encodeParam name value =
      (value.parts.findSome? Value.plainRefusal?).elim (.ok (style.pairs name value)) .error := by
  have given (items : List Value) : items.mapM Value.givenPlain =
      (items.findSome? Value.plainRefusal?).elim (.ok (items.map Value.plain)) .error :=
    mapM_elim (fun _ => rfl) items
  have sequence {items : List Value} (listed : value.parts = items) (read : value.items? = some items)
      (some : value.isNull = false) (marked : value.isSequence = true) :
      style.encodeParam name value =
        (value.parts.findSome? Value.plainRefusal?).elim (.ok (style.pairs name value)) .error := by
    have texts : value.texts = items.map Value.plain := by rw [Value.texts, listed]
    rw [encodeParam.eq_def]
    split
    · cases some
    · rw [read, listed]
      dsimp only
      rw [given]
      cases items.findSome? Value.plainRefusal? with
      | some e => rfl
      | none => cases style <;> simp [pairs, texts, some, marked, Except.map]
  have scalar (alone : value.parts = [value]) (read : value.items? = none)
      (some : value.isNull = false) (unmarked : value.isSequence = false) :
      style.encodeParam name value =
        (value.parts.findSome? Value.plainRefusal?).elim (.ok (style.pairs name value)) .error := by
    have texts : value.texts = [value.plain] := by rw [Value.texts, alone, List.map_singleton]
    rw [encodeParam.eq_def]
    split
    · cases some
    · rw [read, alone, List.findSome?_singleton]
      dsimp only
      rw [Value.givenPlain, WriteError.orText]
      cases value.plainRefusal? with
      | some e => rfl
      | none => cases style <;> simp [pairs, texts, some, unmarked, Except.map]
  cases value with
  | null => cases style <;> rfl
  | list items => exact sequence rfl rfl rfl rfl
  | tuple items => exact sequence rfl rfl rfl rfl
  | _ => exact scalar rfl rfl rfl rfl

end Refusal

/-- A parameter becomes no pair if it is null or, written in pairs, an empty sequence. -/
theorem pairs_eq_nil_iff (style : QueryStyle) (name : String) (value : Value) :
    style.pairs name value = [] ↔
      value.isNull = true ∨ style ≠ commaSeparated ∧ value.texts = [] := by
  have silent : value.isNull = true → value.texts = [] := by
    intro null
    cases value with
    | null => rfl
    | _ => cases null
  cases style with
  | commaSeparated => cases null : value.isNull <;> simp [pairs, null]
  | multiPairs | arrayPairs =>
      rw [pairs, List.map_eq_nil_iff]
      constructor
      · exact fun none => .inr ⟨nofun, none⟩
      · exact fun either => either.elim silent And.right

/-! ### All parameters -/

def allPairs (style : QueryStyle) (params : List (String × Value)) : List (String × String) :=
  params.flatMap fun param => style.pairs param.1 param.2

def firstRefusal? [Runtime] (params : List (String × Value)) : Option WriteError :=
  params.findSome? fun param => param.2.parts.findSome? Value.plainRefusal?

theorem encodeParams_eq [Runtime] (style : QueryStyle) (params : List (String × Value)) :
    style.encodeParams params =
      (firstRefusal? params).elim (.ok (style.allPairs params)) .error := by
  have each := mapM_elim (fun param : String × Value => style.encodeParam_eq param.1 param.2) params
  rw [encodeParams, each, firstRefusal?, allPairs, List.flatMap_def]
  cases params.findSome? fun param => param.2.parts.findSome? Value.plainRefusal? <;> rfl

theorem encodeParams_eq_nil_iff [Runtime] (style : QueryStyle) (params : List (String × Value)) :
    style.encodeParams params = .ok [] ↔
      firstRefusal? params = none ∧
        ∀ entry ∈ params, entry.2.isNull = true ∨ style ≠ commaSeparated ∧ entry.2.texts = [] := by
  rw [encodeParams_eq]
  cases firstRefusal? params with
  | some e => exact ⟨nofun, nofun⟩
  | none =>
      change (Except.ok (style.allPairs params) : Except WriteError _) = .ok [] ↔ _
      rw [Except.ok.injEq, and_iff_right rfl, allPairs, List.flatMap_eq_nil_iff]
      simp only [pairs_eq_nil_iff]

section All

variable {params : Dictionary Value}

theorem allPairs_cons (style : QueryStyle) (entry : String × Value) (params : Dictionary Value) :
    style.allPairs (entry :: params) = style.pairs entry.1 entry.2 ++ style.allPairs params :=
  List.flatMap_cons

theorem mem_keys_of_mem_names {name : String}
    (member : name ∈ (multiPairs.allPairs params).map Prod.fst) : name ∈ params.keys := by
  obtain ⟨pair, written, rfl⟩ := List.mem_map.mp member
  obtain ⟨entry, listed, written⟩ := List.mem_flatMap.mp written
  obtain ⟨text, _, rfl⟩ := List.mem_map.mp written
  exact Dictionary.mem_keys_of_mem listed

theorem valuesOf_multiPairs (distinct : params.keys.Nodup) (name : String) :
    valuesOf (multiPairs.allPairs params) name =
      ((params.get? name).map Value.texts).getD [] := by
  induction params with
  | nil => rfl
  | cons entry rest ih =>
      obtain ⟨fresh, distinct⟩ := Dictionary.nodup_keys_cons.mp distinct
      rw [allPairs_cons, valuesOf_append, pairs, Dictionary.get?_cons]
      by_cases here : entry.1 = name
      · subst here
        have later : valuesOf (multiPairs.allPairs rest) entry.1 = [] :=
          valuesOf_other fun member => fresh (mem_keys_of_mem_names member)
        rw [if_pos rfl, valuesOf_own, later, List.append_nil]
        rfl
      · have others : valuesOf (entry.2.texts.map fun text => (entry.1, text)) name = [] := by
          apply valuesOf_other
          intro member
          obtain ⟨pair, written, rfl⟩ := List.mem_map.mp member
          obtain ⟨text, _, rfl⟩ := List.mem_map.mp written
          exact here rfl
        rw [if_neg here, others, List.nil_append]
        exact ih distinct

theorem names_multiPairs (distinct : params.keys.Nodup) :
    ((multiPairs.allPairs params).map Prod.fst).Pairwise fun a b =>
      params.keys.idxOf a ≤ params.keys.idxOf b := by
  induction params with
  | nil => exact List.Pairwise.nil
  | cons entry rest ih =>
      obtain ⟨fresh, distinct⟩ := Dictionary.nodup_keys_cons.mp distinct
      have first : (Dictionary.keys (entry :: rest)).idxOf entry.1 = 0 := List.idxOf_cons_self
      have later : ∀ name ∈ (multiPairs.allPairs rest).map Prod.fst,
          (Dictionary.keys (entry :: rest)).idxOf name = (Dictionary.keys rest).idxOf name + 1 := by
        intro name member
        apply List.idxOf_cons_ne
        rintro rfl
        exact fresh (mem_keys_of_mem_names member)
      have own : ∀ name ∈ (multiPairs.pairs entry.1 entry.2).map Prod.fst,
          (Dictionary.keys (entry :: rest)).idxOf name = 0 := by
        intro name member
        rw [pairs, List.map_map] at member
        obtain ⟨text, _, rfl⟩ := List.mem_map.mp member
        exact first
      rw [allPairs_cons, List.map_append, List.pairwise_append]
      refine ⟨?_, ?_, ?_⟩
      · apply List.pairwise_of_forall_mem_list
        intro a ofA b ofB
        rw [own a ofA]
        exact Nat.zero_le _
      · apply (ih distinct).imp_of_mem
        intro a b ofA ofB ordered
        rw [later a ofA, later b ofB]
        exact Nat.succ_le_succ ordered
      · intro a ofA b ofB
        rw [own a ofA]
        exact Nat.zero_le _

theorem allPairs_arrayPairs (distinct : params.keys.Nodup) :
    arrayPairs.allPairs params =
      (multiPairs.allPairs params).map fun pair =>
        (if (params.get? pair.1).any Value.isSequence then pair.1 ++ "[]" else pair.1, pair.2) := by
  rw [allPairs, allPairs, List.map_flatMap]
  apply List.flatMap_congr
  intro entry member
  rw [pairs, pairs, List.map_map]
  apply List.map_congr_left
  intro text _
  rw [Function.comp_apply, Dictionary.get?_of_mem distinct member]
  rfl

theorem allPairs_commaSeparated (distinct : params.keys.Nodup) :
    commaSeparated.allPairs params =
      (params.filter fun entry => !entry.2.isNull).map fun entry =>
        (entry.1, ",".intercalate (valuesOf (multiPairs.allPairs params) entry.1)) := by
  have joined : ∀ entry ∈ params,
      commaSeparated.pairs entry.1 entry.2 =
        if entry.2.isNull then []
        else [(entry.1, ",".intercalate (valuesOf (multiPairs.allPairs params) entry.1))] := by
    intro entry member
    rw [pairs, valuesOf_multiPairs distinct, Dictionary.get?_of_mem distinct member]
    rfl
  rw [allPairs, List.flatMap_congr joined]
  generalize multiPairs.allPairs params = pairs
  clear joined distinct
  induction params with
  | nil => rfl
  | cons entry rest ih =>
      rw [List.flatMap_cons, ih]
      cases absent : entry.2.isNull with
      | true =>
          rw [List.filter_cons_of_neg (by rw [absent]; decide), if_pos rfl, List.nil_append]
      | false =>
          rw [List.filter_cons_of_pos (by rw [absent]; decide)]
          rfl

end All

/-- What parameters with distinct names become. If the runtime refuses the text of a value or of an
item, then the first refusal is the outcome in every style. Otherwise all styles write pairs. In
repeated pairs the names stand in order, and with each name exactly the texts of its value, in order.
Marking the names of sequences gives the array style, and joining the texts of each name that has a
value the style with commas. -/
theorem encodeParams_relate [Runtime] (params : Dictionary Value) (distinct : params.keys.Nodup) :
    (∀ e, firstRefusal? params = some e → ∀ style, encodeParams style params = .error e) ∧
    (firstRefusal? params = none →
      ∃ repeated, multiPairs.encodeParams params = .ok repeated ∧
        ((repeated.map Prod.fst).Pairwise fun a b =>
          params.keys.idxOf a ≤ params.keys.idxOf b) ∧
        (∀ name, valuesOf repeated name = ((params.get? name).map Value.texts).getD []) ∧
        arrayPairs.encodeParams params =
          .ok (repeated.map fun pair =>
            (if (params.get? pair.1).any Value.isSequence then pair.1 ++ "[]" else pair.1,
              pair.2)) ∧
        commaSeparated.encodeParams params =
          .ok ((params.filter fun entry => !entry.2.isNull).map fun entry =>
            (entry.1, ",".intercalate (valuesOf repeated entry.1)))) := by
  constructor
  · intro e refused style
    rw [encodeParams_eq, refused]
    rfl
  · intro given
    have written (style : QueryStyle) :
        style.encodeParams params = .ok (style.allPairs params) := by
      rw [encodeParams_eq, given]
      rfl
    refine ⟨_, written multiPairs, names_multiPairs distinct, valuesOf_multiPairs distinct, ?_, ?_⟩
    · rw [written, allPairs_arrayPairs distinct]
    · rw [written, allPairs_commaSeparated distinct]

def mixed : Dictionary Value :=
  [("a", .null), ("b", .list [.int 1, .null]), ("c", .tuple []), ("d", .text "x")]

open scoped Sample in
theorem encodeParams_relate_mixed :
    mixed.keys.Nodup ∧ firstRefusal? mixed = none ∧
    ∃ repeated, multiPairs.encodeParams mixed = .ok repeated ∧
      valuesOf repeated "b" = ["1", "None"] ∧
      commaSeparated.encodeParams mixed = .ok [("b", "1,None"), ("c", ""), ("d", "x")] := by
  have distinct : mixed.keys.Nodup := by decide
  have given : firstRefusal? mixed = none := by decide +kernel
  obtain ⟨repeated, written, -, values, -, joined⟩ :=
    (encodeParams_relate mixed distinct).2 given
  refine ⟨distinct, given, repeated, written, (values "b").trans (by decide +kernel), ?_⟩
  rw [joined]
  simp only [values]
  decide +kernel

end QueryStyle

end ClientWiring
