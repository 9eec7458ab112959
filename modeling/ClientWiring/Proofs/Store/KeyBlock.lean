import ClientWiring.Proofs.Store.Pem
import ClientWiring.Store.KeyBlock
set_option autoImplicit false

/-! The search for the block of a private key goes past the other blocks of a file and cuts the first
one of a key out as it was written. -/

namespace ClientWiring.PemStore

open Pem

/-! ### Looking for a key -/

theorem keyBlock?_of_unopened {b : UInt8} {rest : List UInt8}
    (unopened : (octets "-----BEGIN ").isPrefixOf (b :: rest) = false) :
    keyBlock? (b :: rest) = keyBlock? rest := by
  have nothing : keyBlockHere? (b :: rest) = none := by
    simp only [keyBlockHere?, after?, unopened, Option.bind_eq_bind, Bool.false_eq_true, if_false,
      Option.bind_none]
  rw [keyBlock?, nothing]

theorem keyBlock?_append_of_absent {before : List UInt8} (absent : hyphen ∉ before)
    (rest : List UInt8) : keyBlock? (before ++ rest) = keyBlock? rest := by
  induction before with
  | nil => rfl
  | cons b before ih =>
      rw [List.mem_cons, not_or] at absent
      have unopened : (octets "-----BEGIN ").isPrefixOf (b :: (before ++ rest)) = false := by
        rw [octets_beginning, List.isPrefixOf, beq_eq_false_iff_ne.mpr absent.1, Bool.false_and]
      rw [List.cons_append, keyBlock?_of_unopened unopened, ih absent.2]

/-- A row of dashes is told apart from a longer one, and by what follows it. -/
theorem isPrefixOf_dashes {dashes count : Nat} {next b : UInt8}
    (differ : count < dashes ∧ b ≠ hyphen ∨ count = dashes ∧ b ≠ next) (more rest : List UInt8) :
    (List.replicate dashes hyphen ++ next :: more).isPrefixOf
      (List.replicate count hyphen ++ b :: rest) = false := by
  induction count generalizing dashes with
  | zero =>
      cases dashes with
      | zero =>
          have other : b ≠ next := by simpa using differ
          exact Bool.and_eq_false_imp.mpr fun same => absurd (eq_of_beq same).symm other
      | succ dashes =>
          have other : b ≠ hyphen := by simpa using differ
          exact Bool.and_eq_false_imp.mpr fun same => absurd (eq_of_beq same).symm other
  | succ count ih =>
      cases dashes with
      | zero => omega
      | succ dashes =>
          have differ' : count < dashes ∧ b ≠ hyphen ∨ count = dashes ∧ b ≠ next :=
            differ.imp (And.imp_left Nat.lt_of_succ_lt_succ) (And.imp_left Nat.succ.inj)
          rw [List.replicate_succ, List.replicate_succ, List.cons_append, List.cons_append,
            List.isPrefixOf, ih differ', Bool.and_false]

theorem octets_opening :
    octets "-----BEGIN " = List.replicate 5 hyphen ++ 0x42 :: octets "EGIN " := by
  rw [octets_ascii (by decide), octets_ascii (by decide)]
  decide

/-- Dashes open no block if they are too few, or if no beginning follows them. -/
theorem keyBlock?_dashes {count : Nat} {b : UInt8} (few : count < 5 ∨ count = 5 ∧ b ≠ 0x42)
    (other : b ≠ hyphen) (rest : List UInt8) :
    keyBlock? (List.replicate count hyphen ++ b :: rest) = keyBlock? rest := by
  induction count with
  | zero =>
      have absent : hyphen ∉ [b] := fun member => other (List.mem_singleton.mp member).symm
      exact keyBlock?_append_of_absent absent rest
  | succ count ih =>
      have unopened : (octets "-----BEGIN ").isPrefixOf
          (List.replicate (count + 1) hyphen ++ b :: rest) = false := by
        rw [octets_opening]
        exact isPrefixOf_dashes (few.imp_left fun less => ⟨less, other⟩) _ _
      rw [List.replicate_succ, List.cons_append] at unopened ⊢
      rw [keyBlock?_of_unopened unopened, ih (.inl (by omega))]

/-! ### The block of a key -/

theorem through?_append {first : UInt8} {more before : List UInt8} {marker : List UInt8}
    (starts : marker = first :: more) (absent : first ∉ before) (rest : List UInt8) :
    through? marker (before ++ (marker ++ rest)) = some (before ++ marker) := by
  induction before with
  | nil =>
      have here : marker.isPrefixOf (first :: (more ++ rest)) = true := by
        rw [List.isPrefixOf_iff_prefix, starts]
        exact ⟨rest, rfl⟩
      rw [List.nil_append, List.nil_append, starts, List.cons_append, through?, ← starts,
        if_pos here]
  | cons b before ih =>
      rw [List.mem_cons, not_or] at absent
      have later : marker.isPrefixOf (b :: (before ++ (marker ++ rest))) = false := by
        rw [starts, List.isPrefixOf, beq_eq_false_iff_ne.mpr absent.1, Bool.false_and]
      rw [List.cons_append, through?, later, ih absent.2]
      rfl

def IsLabel (label : String) : Prop :=
  ∀ b ∈ octets label, isLabelByte b = true

theorem after?_append (start rest : List UInt8) : after? start (start ++ rest) = some rest := by
  have here : start.isPrefixOf (start ++ rest) = true := by
    rw [List.isPrefixOf_iff_prefix]
    exact List.prefix_append start rest
  rw [after?, if_pos here, List.drop_left]

theorem takeWhile_label {label : String} (letters : IsLabel label) (rest : List UInt8) :
    (octets label ++ (octets "-----" ++ rest)).takeWhile isLabelByte = octets label := by
  rw [List.takeWhile_append_of_pos letters, octets_dashes, List.cons_append,
    List.takeWhile_cons_of_neg (by decide), List.append_nil]

/-- At the first line of a block the search goes on to its end if the label is that of a key. -/
theorem keyBlockHere?_opening {label : String} (letters : IsLabel label) (rest : List UInt8) :
    keyBlockHere? (octets "-----BEGIN " ++ (octets label ++ (octets "-----" ++ lineFeed :: rest))) =
      if (octets "PRIVATE KEY").isSuffixOf (octets label) then
        (through? (octets "-----END " ++ octets label ++ octets "-----") rest).map fun remainder =>
          octets "-----BEGIN " ++ octets label ++ octets "-----" ++ lineFeed :: remainder
      else none := by
  simp only [keyBlockHere?, after?_append, Option.bind_eq_bind, Option.bind_some,
    takeWhile_label letters, List.drop_left, Option.pure_def]
  split
  · cases through? (octets "-----END " ++ octets label ++ octets "-----") rest <;> rfl
  · rfl

theorem hyphen_not_mem_label {label : String} (letters : IsLabel label) :
    hyphen ∉ octets label := by
  intro member
  have letter := letters hyphen member
  cases letter

theorem isLabel_certificate : IsLabel "CERTIFICATE" := by
  rw [IsLabel, octets_ascii (by decide), ← List.all_eq_true]
  decide

theorem isLabel_privateKey : IsLabel "PRIVATE KEY" := by
  rw [IsLabel, octets_ascii (by decide), ← List.all_eq_true]
  decide

/-- The block of a key is cut out as it was written. -/
theorem keyBlock?_key (block : Block) (letters : IsLabel block.label)
    (named : (octets "PRIVATE KEY").isSuffixOf (octets block.label) = true) (rest : List UInt8) :
    keyBlock? (block.armor ++ rest) = some block.armor := by
  have ends : octets "-----END " ++ octets block.label ++ octets "-----" =
      hyphen :: (List.replicate 4 hyphen ++ octets "END " ++ octets block.label ++
        octets "-----") := by
    rw [octets_ending]
    simp only [List.cons_append, List.append_assoc]
  have cut := through?_append ends block.hyphen_not_mem_lines rest
  have found : keyBlockHere? (block.armor ++ rest) = some block.armor := by
    have shape := keyBlockHere?_opening letters
      (block.lines ++ (octets "-----END " ++ octets block.label ++ octets "-----" ++ rest))
    rw [if_pos named, cut, Option.map_some] at shape
    simp only [Block.armor, List.append_assoc, List.cons_append] at shape ⊢
    exact shape
  have starts : block.armor ++ rest = hyphen :: (block.armor ++ rest).tail := by
    rw [Block.armor, octets_beginning]
    rfl
  rw [starts] at found ⊢
  rw [keyBlock?, found]

/-- Any other block is passed over. -/
theorem keyBlock?_other (block : Block) (letters : IsLabel block.label)
    (other : (octets "PRIVATE KEY").isSuffixOf (octets block.label) = false) (rest : List UInt8) :
    keyBlock? (block.armor ++ lineFeed :: rest) = keyBlock? rest := by
  have opening : octets "-----BEGIN " =
      hyphen :: (List.replicate 4 hyphen ++ 0x42 :: octets "EGIN ") := octets_opening
  have ending : octets "-----END " = List.replicate 5 hyphen ++ 0x45 :: octets "ND " := by
    rw [octets_ascii (by decide), octets_ascii (by decide)]
    decide
  have dashes : octets "-----" = List.replicate 5 hyphen := octets_dashes
  have nothing : keyBlockHere? (block.armor ++ lineFeed :: rest) = none := by
    have shape := keyBlockHere?_opening letters
      (block.lines ++ (octets "-----END " ++ (octets block.label ++ (octets "-----" ++
        lineFeed :: rest))))
    rw [other, if_neg Bool.false_ne_true] at shape
    simpa only [Block.armor, List.append_assoc, List.cons_append] using shape
  have label := hyphen_not_mem_label letters
  have beginning : hyphen ∉ octets "EGIN " := by
    rw [octets_ascii (by decide)]
    decide
  have finish : hyphen ∉ octets "ND " := by
    rw [octets_ascii (by decide)]
    decide
  simp only [Block.armor, List.append_assoc, List.cons_append, opening] at nothing ⊢
  -- the rest of the first line, the lines of the content, and the last line open no block
  rw [keyBlock?, nothing]
  dsimp only
  rw [keyBlock?_dashes (.inl (by decide)) (by decide),
    keyBlock?_append_of_absent beginning, keyBlock?_append_of_absent label, dashes,
    keyBlock?_dashes (.inr (by decide)) (by decide),
    keyBlock?_append_of_absent block.hyphen_not_mem_lines, ending, List.append_assoc,
    List.cons_append, keyBlock?_dashes (.inr (by decide)) (by decide),
    keyBlock?_append_of_absent finish, keyBlock?_append_of_absent label,
    keyBlock?_dashes (.inr (by decide)) (by decide)]

end ClientWiring.PemStore
