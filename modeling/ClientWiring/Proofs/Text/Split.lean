import Mathlib.Data.List.DropRight
import Mathlib.Data.List.TakeWhile
import ClientWiring.Text.Blank
set_option autoImplicit false

/-! Texts that are split at their first mark, and texts without blanks around them. -/

namespace ClientWiring.Text

/-- A text is split at the first mark, if none stands before it. -/
theorem takeWhile_append_mark {p : Char → Bool} {before : List Char} {mark : Char}
    (inside : ∀ c ∈ before, p c = true) (marked : p mark = false) (rest : List Char) :
    (before ++ mark :: rest).takeWhile p = before ∧
      (before ++ mark :: rest).dropWhile p = mark :: rest := by
  rw [List.takeWhile_append_of_pos inside, List.dropWhile_append_of_pos inside,
    List.takeWhile_cons_of_neg (by rw [marked]; exact nofun),
    List.dropWhile_cons_of_neg (by rw [marked]; exact nofun), List.append_nil]
  exact ⟨rfl, rfl⟩

/-- What follows a stop adds nothing to the characters before it. -/
theorem takeWhile_append_stop {p : Char → Bool} {rest : List Char}
    (stops : ∀ c, rest.head? = some c → p c = false) (cs : List Char) :
    (cs ++ rest).takeWhile p = cs.takeWhile p ∧
      (cs ++ rest).dropWhile p = cs.dropWhile p ++ rest := by
  induction cs with
  | nil =>
      cases rest with
      | nil => exact ⟨rfl, rfl⟩
      | cons c rest =>
          have stop : ¬p c = true := by
            rw [stops c rfl]
            exact Bool.false_ne_true
          exact ⟨List.takeWhile_cons_of_neg stop, List.dropWhile_cons_of_neg stop⟩
  | cons c cs ih =>
      rw [List.cons_append, List.takeWhile_cons, List.takeWhile_cons, List.dropWhile_cons,
        List.dropWhile_cons]
      cases p c with
      | true => exact ⟨congrArg (List.cons c) ih.1, ih.2⟩
      | false => exact ⟨rfl, rfl⟩

theorem stripChars_eq_self_iff (p : Char → Bool) (cs : List Char) :
    stripChars p cs = cs ↔
      (∀ c, cs.head? = some c → p c = false) ∧ ∀ c, cs.getLast? = some c → p c = false := by
  have leading : cs.dropWhile p = cs ↔ ∀ c, cs.head? = some c → p c = false := by
    cases cs with
    | nil => simp
    | cons c rest => simp [List.dropWhile_eq_self_iff]
  have trailing : dropTrailing p cs = cs ↔ ∀ c, cs.getLast? = some c → p c = false := by
    refine (List.rdropWhile_eq_self_iff (p := p) (l := cs)).trans ?_
    cases cs with
    | nil => simp
    | cons c rest => simp [List.getLast?_eq_some_getLast]
  rw [← leading, ← trailing]
  constructor
  · intro same
    have front : (cs.dropWhile p).length ≤ cs.length := (List.dropWhile_suffix p).length_le
    have back : (stripChars p cs).length ≤ (cs.dropWhile p).length :=
      (List.rdropWhile_prefix p (cs.dropWhile p)).length_le
    have whole : cs.dropWhile p = cs := by
      apply (List.dropWhile_suffix p).eq_of_length
      rw [same] at back
      omega
    refine ⟨whole, ?_⟩
    rw [stripChars, whole] at same
    exact same
  · rintro ⟨front, back⟩
    rw [stripChars, front, back]

/-- A text trims to itself exactly if no blank stands at either of its ends. -/
theorem trim_eq_self_iff (s : String) :
    trim s = s ↔ (∀ c, s.toList.head? = some c → isBlank c = false) ∧
      ∀ c, s.toList.getLast? = some c → isBlank c = false := by
  rw [← stripChars_eq_self_iff, trim]
  constructor
  · intro same
    have chars := congrArg String.toList same
    rwa [String.toList_ofList] at chars
  · intro same
    rw [same, String.ofList_toList]

end ClientWiring.Text
