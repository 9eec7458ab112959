import ClientWiring.Json.Reader
import Mathlib.Data.List.Infix
import Mathlib.Data.List.TakeWhile
set_option autoImplicit false

/-! What reading JSON text comes to. A reader leaves an end of its text, and it reaches a limit only
in a text that goes over the limit: each level takes an opening bracket, and each digit a character. -/

namespace ClientWiring.Json

def isOpening : CodePoint → Bool
  | .char c => c == '[' || c == '\x7b'
  | .half _ => false

def isDigit : CodePoint → Bool
  | .char c => Text.isAsciiDigit c
  | .half _ => false

/-- What a reader may make of a text, `depth` levels further down at most. -/
inductive Within {α : Type} (limits : Limits) (depth : Nat) (points : CodePoints) :
    Read CodePoint α → Prop
  | read {a : α} {rest : CodePoints} (left : rest <:+ points) :
      Within limits depth points (.ok (a, rest))
  | malformed : Within limits depth points (.error .malformed)
  | tooManyDigits {limit digits : Nat} (limited : limits.digits = some limit)
      (many : limit < digits) (written : digits ≤ points.countP isDigit) :
      Within limits depth points (.error (.tooManyDigits digits))
  | tooDeep {inArray : Bool} (deep : depth < points.countP isOpening) :
      Within limits depth points (.error (.tooDeep inArray))

namespace Within

variable {α : Type} {limits : Limits} {depth : Nat} {points : CodePoints}
  {result : Read CodePoint α}

theorem of_suffix (within : Within limits depth points result) {whole : CodePoints}
    (suffix : points <:+ whole) : Within limits depth whole result := by
  cases within with
  | read left => exact .read (left.trans suffix)
  | malformed => exact .malformed
  | tooManyDigits limited many written =>
      exact .tooManyDigits limited many (written.trans suffix.sublist.countP_le)
  | tooDeep deep => exact .tooDeep (Nat.lt_of_lt_of_le deep suffix.sublist.countP_le)

/-- An opening bracket in front makes up for one level. -/
theorem below (within : Within limits depth points result) {point : CodePoint}
    (opens : isOpening point = true) : Within limits (depth + 1) (point :: points) result := by
  have behind : points <:+ point :: points := List.suffix_cons _ _
  cases within with
  | read left => exact .read (left.trans behind)
  | malformed => exact .malformed
  | tooManyDigits limited many written =>
      exact .tooManyDigits limited many (written.trans behind.sublist.countP_le)
  | tooDeep deep =>
      refine .tooDeep ?_
      rw [List.countP_cons_of_pos opens]
      exact Nat.succ_lt_succ deep

theorem left_suffix {a : α} {rest : CodePoints}
    (within : Within limits depth points (.ok (a, rest))) : rest <:+ points := by
  cases within with
  | read left => exact left

theorem error {e : ReadError} (within : Within limits depth points (.error e : Read CodePoint α))
    (β : Type) : Within limits depth points (.error e : Read CodePoint β) := by
  cases within with
  | malformed => exact .malformed
  | tooManyDigits limited many written => exact .tooManyDigits limited many written
  | tooDeep deep => exact .tooDeep deep

theorem map {β : Type} (within : Within limits depth points result) (f : α → β) :
    Within limits depth points (result.map fun read => (f read.1, read.2)) := by
  cases within with
  | read left => exact .read left
  | malformed => exact .malformed
  | tooManyDigits limited many written => exact .tooManyDigits limited many written
  | tooDeep deep => exact .tooDeep deep

end Within

def lifted {α : Type} (result : Read Char α) : Read CodePoint α :=
  result.map fun read => (read.1, CodePoints.ofChars read.2)

theorem ofChars_suffix {rest cs : List Char} (suffix : rest <:+ cs) :
    CodePoints.ofChars rest <:+ CodePoints.ofChars cs :=
  suffix.map _

/-- Reading the characters in front is within the limits if reading them alone is. -/
theorem readLeading_within {α : Type} {limits : Limits} {depth : Nat}
    {reader : List Char → Read Char α} (points : CodePoints)
    (within : Within limits depth (CodePoints.ofChars points.leading.1)
      (lifted (reader points.leading.1))) :
    Within limits depth points (readLeading reader points) := by
  have whole := CodePoints.ofChars_leading points
  unfold readLeading
  generalize points.leading = parts at within whole ⊢
  obtain ⟨front, back⟩ := parts
  have prefixed : (CodePoints.ofChars front).Sublist points := by
    rw [← whole]
    exact List.sublist_append_left _ _
  dsimp only at within ⊢
  cases read : reader front with
  | error e =>
      rw [read] at within
      cases within with
      | malformed => exact .malformed
      | tooManyDigits limited many written =>
          exact .tooManyDigits limited many (written.trans prefixed.countP_le)
      | tooDeep deep => exact .tooDeep (Nat.lt_of_lt_of_le deep prefixed.countP_le)
  | ok done =>
      rw [read] at within
      obtain ⟨before, same⟩ := within.left_suffix
      refine .read ⟨before, ?_⟩
      rw [← List.append_assoc, same, whole]

theorem skipSpace_suffix (points : CodePoints) : skipSpace points <:+ points :=
  List.dropWhile_suffix _

/-! ### Strings -/

theorem hexUnit?_suffix {cs rest : List Char} {unit : Nat} (read : hexUnit? cs = some (unit, rest)) :
    rest <:+ cs := by
  unfold hexUnit? at read
  split at read
  next a b c d rest' =>
    simp only [Option.bind_eq_bind, Option.bind_eq_some_iff] at read
    obtain ⟨_, -, _, -, _, -, _, -, same⟩ := read
    cases same
    exact ⟨[a, b, c, d], rfl⟩
  · cases read

theorem lowUnit?_suffix {cs rest : List Char} {unit : Nat} (read : lowUnit? cs = some (unit, rest)) :
    rest <:+ cs := by
  unfold lowUnit? at read
  split at read
  next rest' =>
    split at read
    next low left found =>
      split at read
      · cases read
        exact (hexUnit?_suffix found).trans ⟨['\\', 'u'], rfl⟩
      · cases read
    · cases read
  · cases read

theorem unicodeEscape_within (limits : Limits) (depth : Nat) (cs : List Char) :
    Within limits depth (CodePoints.ofChars cs) (lifted (unicodeEscape cs)) := by
  unfold unicodeEscape
  split
  · exact .malformed
  next unit left found =>
    have first := hexUnit?_suffix found
    split
    next low after half =>
      have second : lowUnit? left = some (low, after) := by
        split at half
        · exact half
        · cases half
      exact .read (ofChars_suffix ((lowUnit?_suffix second).trans first))
    · exact .read (ofChars_suffix first)

theorem readEscape_within (limits : Limits) (depth : Nat) (points : CodePoints) :
    Within limits depth points (readEscape points) := by
  unfold readEscape
  split
  next rest =>
    exact (readLeading_within rest (unicodeEscape_within limits depth _)).of_suffix
      (List.suffix_cons _ _)
  · split
    · exact .read (List.suffix_cons _ _)
    · exact .malformed
  · exact .malformed

theorem readStringRest_within (limits : Limits) (depth fuel : Nat) (done points : CodePoints) :
    Within limits depth points (readStringRest fuel done points) := by
  induction fuel generalizing done points with
  | zero => exact .malformed
  | succ fuel ih =>
      rcases points with _ | ⟨c | place, rest⟩
      · exact .malformed
      · have behind : rest <:+ .char c :: rest := List.suffix_cons _ _
        rw [readStringRest]
        split
        · exact .read behind
        · split
          · exact .malformed
          · split
            · have escape := readEscape_within limits depth rest
              generalize readEscape rest = result at escape ⊢
              rcases result with e | ⟨point, left⟩
              · exact (escape.of_suffix behind).error _
              · exact (ih _ left).of_suffix (escape.left_suffix.trans behind)
            · exact (ih _ rest).of_suffix behind
      · exact (ih _ rest).of_suffix (List.suffix_cons _ _)

/-! ### Numbers and words -/

theorem fraction?_suffix {cs digits rest : List Char} (read : fraction? cs = some (digits, rest)) :
    rest <:+ cs := by
  unfold fraction? at read
  split at read
  next rest' =>
    dsimp only at read
    split at read
    · cases read
    · cases read
      exact (List.dropWhile_suffix _).trans (List.suffix_cons _ _)
  · cases read

theorem splitSign_suffix (cs : List Char) : (Number.splitSign cs).2 <:+ cs := by
  unfold Number.splitSign
  split
  · exact List.suffix_cons _ _
  · exact List.suffix_cons _ _
  · exact List.suffix_rfl

theorem exponent?_suffix {cs rest : List Char} {power : Int}
    (read : exponent? cs = some (power, rest)) : rest <:+ cs := by
  unfold exponent? at read
  split at read
  next mark rest' =>
    split at read
    · dsimp only at read
      split at read
      · cases read
      · cases read
        exact ((List.dropWhile_suffix _).trans (splitSign_suffix rest')).trans
          (List.suffix_cons _ _)
    · cases read
  · cases read

theorem suffix_getD {α : Type} {part : Option (α × List Char)} {cs : List Char}
    (suffix : ∀ a rest, part = some (a, rest) → rest <:+ cs) :
    (part.map (·.2)).getD cs <:+ cs := by
  cases part with
  | none => exact List.suffix_rfl
  | some found => exact suffix found.1 found.2 rfl

theorem wholePart_append (cs : List Char) : (wholePart cs).1 ++ (wholePart cs).2 = cs := by
  unfold wholePart
  split
  · rfl
  · exact List.takeWhile_append_dropWhile

/-- The digits that count against the limit are digits of the text. -/
theorem length_wholePart (cs : List Char) :
    (wholePart cs).1.length ≤ (CodePoints.ofChars cs).countP isDigit := by
  have digits : ∀ point ∈ CodePoints.ofChars (wholePart cs).1, isDigit point = true := by
    intro point member
    obtain ⟨c, inside, rfl⟩ := List.mem_map.mp member
    unfold wholePart at inside
    split at inside
    · rw [List.mem_singleton.mp inside]
      rfl
    · have digit : Text.isAsciiDigit c = true := List.mem_takeWhile_imp inside
      exact digit
  have counted : (CodePoints.ofChars (wholePart cs).1).countP isDigit =
      (wholePart cs).1.length := by
    rw [List.countP_eq_length.mpr digits, CodePoints.length_ofChars]
  have whole : (CodePoints.ofChars cs).countP isDigit =
      (CodePoints.ofChars (wholePart cs).1).countP isDigit +
        (CodePoints.ofChars (wholePart cs).2).countP isDigit := by
    rw [← List.countP_append, ← CodePoints.ofChars_append, wholePart_append]
  rw [← counted, whole]
  exact Nat.le_add_right _ _

theorem readNumber_within (limits : Limits) (depth : Nat) (negative : Bool) (cs : List Char) :
    Within limits depth (CodePoints.ofChars cs) (lifted (readNumber limits negative cs)) := by
  have parts := wholePart_append cs
  have written := length_wholePart cs
  unfold readNumber
  generalize wholePart cs = split at parts written ⊢
  obtain ⟨whole, rest⟩ := split
  have behind : rest <:+ cs := ⟨whole, parts⟩
  have left : ((exponent? (((fraction? rest).map (·.2)).getD rest)).map (·.2)).getD
      (((fraction? rest).map (·.2)).getD rest) <:+ cs :=
    ((suffix_getD fun _ _ => exponent?_suffix).trans (suffix_getD fun _ _ => fraction?_suffix)).trans
      behind
  dsimp only
  split
  · exact .malformed
  · split
    · split
      next limit limited =>
        split
        next many => exact .tooManyDigits limited many written
        · exact .read (ofChars_suffix left)
      · exact .read (ofChars_suffix left)
    · exact .read (ofChars_suffix left)

theorem afterWord?_suffix {word cs rest : List Char} (read : afterWord? word cs = some rest) :
    rest <:+ cs := by
  induction word generalizing cs with
  | nil =>
      cases read
      exact List.suffix_rfl
  | cons w word ih =>
      cases cs with
      | nil => cases read
      | cons c cs =>
          rw [afterWord?] at read
          split at read
          · exact (ih read).trans (List.suffix_cons _ _)
          · cases read

theorem word?_suffix {cs rest : List Char} {node : Node} (read : word? cs = some (node, rest)) :
    rest <:+ cs := by
  obtain ⟨entry, -, found⟩ := List.exists_of_findSome?_eq_some read
  obtain ⟨left, after, same⟩ := Option.map_eq_some_iff.mp found
  cases same
  exact afterWord?_suffix after

theorem readScalar_within (limits : Limits) (depth : Nat) (cs : List Char) :
    Within limits depth (CodePoints.ofChars cs) (lifted (readScalar limits cs)) := by
  unfold readScalar
  split
  next read found => exact .read (ofChars_suffix (word?_suffix found))
  · split
    · exact (readNumber_within limits depth true _).of_suffix
        (ofChars_suffix (List.suffix_cons _ _))
    · exact readNumber_within limits depth false _

/-! ### Values -/

structure AllWithin (limits : Limits) (fuel : Nat) : Prop where
  value : ∀ depth points, Within limits depth points (readValue limits fuel depth points)
  items : ∀ depth done points, Within limits depth points (readItems limits fuel depth done points)
  members : ∀ depth done points,
    Within limits depth points (readMembers limits fuel depth done points)

section Step

variable {limits : Limits} {fuel : Nat} (inner : AllWithin limits fuel)

include inner

theorem readItems_within (depth : Nat) (done : List Node) (points : CodePoints) :
    Within limits depth points (readItems limits (fuel + 1) depth done points) := by
  have first := inner.value depth points
  rw [readItems]
  generalize readValue limits fuel depth points = result at first ⊢
  rcases result with e | ⟨item, rest⟩
  · exact first
  · have space := (skipSpace_suffix rest).trans first.left_suffix
    dsimp only
    split
    next more same =>
      have further : skipSpace more <:+ points :=
        ((skipSpace_suffix more).trans (List.suffix_cons _ _)).trans (same ▸ space)
      exact (inner.items depth _ _).of_suffix further
    next more same => exact .read ((List.suffix_cons _ _).trans (same ▸ space))
    · exact .malformed

theorem readMembers_within (depth : Nat) (done : List (CodePoints × Node)) (points : CodePoints) :
    Within limits depth points (readMembers limits (fuel + 1) depth done points) := by
  unfold readMembers
  split
  next rest =>
    have behind : rest <:+ .char '"' :: rest := List.suffix_cons _ _
    have key := readStringRest_within limits depth (rest.length + 1) [] rest
    generalize readStringRest (rest.length + 1) [] rest = result at key ⊢
    rcases result with e | ⟨name, afterKey⟩
    · exact (key.of_suffix behind).error Node
    · have space := ((skipSpace_suffix afterKey).trans key.left_suffix).trans behind
      dsimp only
      split
      next valueText same =>
        have valueSuffix : skipSpace valueText <:+ .char '"' :: rest :=
          ((skipSpace_suffix valueText).trans (List.suffix_cons _ _)).trans (same ▸ space)
        have first := (inner.value depth (skipSpace valueText)).of_suffix valueSuffix
        generalize readValue limits fuel depth (skipSpace valueText) = result at first ⊢
        rcases result with e | ⟨item, left⟩
        · exact first
        · have gap := (skipSpace_suffix left).trans first.left_suffix
          dsimp only
          split
          next more same =>
            have further : skipSpace more <:+ .char '"' :: rest :=
              ((skipSpace_suffix more).trans (List.suffix_cons _ _)).trans (same ▸ gap)
            exact (inner.members depth _ _).of_suffix further
          next more same => exact .read ((List.suffix_cons _ _).trans (same ▸ gap))
          · exact .malformed
      · exact .malformed
  · exact .malformed

theorem readValue_within (depth : Nat) (points : CodePoints) :
    Within limits depth points (readValue limits (fuel + 1) depth points) := by
  unfold readValue
  split
  next rest =>
    exact ((readStringRest_within limits depth _ [] rest).of_suffix (List.suffix_cons _ _)).map
      Node.text
  next rest =>
    cases depth with
    | zero => exact .tooDeep (by rw [List.countP_cons_of_pos rfl]; exact Nat.succ_pos _)
    | succ depth =>
        have space := (skipSpace_suffix rest).trans (List.suffix_cons (.char '[') rest)
        dsimp only
        split
        next more same => exact .read ((List.suffix_cons _ _).trans (same ▸ space))
        · exact ((inner.items depth [] _).of_suffix (skipSpace_suffix rest)).below rfl
  next rest =>
    cases depth with
    | zero => exact .tooDeep (by rw [List.countP_cons_of_pos rfl]; exact Nat.succ_pos _)
    | succ depth =>
        have space := (skipSpace_suffix rest).trans (List.suffix_cons (.char '\x7b') rest)
        dsimp only
        split
        next more same => exact .read ((List.suffix_cons _ _).trans (same ▸ space))
        · exact ((inner.members depth [] _).of_suffix (skipSpace_suffix rest)).below rfl
  · exact readLeading_within points (readScalar_within limits depth _)

end Step

theorem allWithin (limits : Limits) (fuel : Nat) : AllWithin limits fuel := by
  -- The three readers call each other, each time with less fuel.
  induction fuel with
  | zero =>
      refine ⟨?_, ?_, ?_⟩ <;> intros
      · unfold readValue
        exact .malformed
      · unfold readItems
        exact .malformed
      · unfold readMembers
        exact .malformed
  | succ fuel inner =>
      exact ⟨readValue_within inner, readItems_within inner, readMembers_within inner⟩

/-- A whole text that is refused for a limit goes over the limit. -/
theorem read_eq_error {limits : Limits} {points : CodePoints} {e : ReadError}
    (failed : read limits points = .error e) :
    e = .malformed ∨
      (∃ limit digits, limits.digits = some limit ∧ limit < digits ∧
        digits ≤ points.countP isDigit ∧ e = .tooManyDigits digits) ∨
      ∃ inArray, limits.depth < points.countP isOpening ∧ e = .tooDeep inArray := by
  have within := ((allWithin limits (2 * points.length + 2)).value limits.depth
    (skipSpace points)).of_suffix (skipSpace_suffix points)
  unfold read at failed
  generalize readValue limits (2 * points.length + 2) limits.depth (skipSpace points) = result
    at within failed
  rcases result with cause | ⟨node, rest⟩
  · cases failed
    cases within with
    | malformed => exact .inl rfl
    | tooManyDigits limited many written => exact .inr (.inl ⟨_, _, limited, many, written, rfl⟩)
    | tooDeep deep => exact .inr (.inr ⟨_, deep, rfl⟩)
  · dsimp only at failed
    split at failed
    · cases failed
    · cases failed
      exact .inl rfl

end ClientWiring.Json
