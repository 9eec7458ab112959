import Mathlib.Data.List.TakeWhile
import ClientWiring.Number.Reading
import ClientWiring.Proofs.Text.Split
set_option autoImplicit false

/-! Numerals. `Denotes` is the grammar of the texts that denote whole numbers, stated without the
reader: white space, a sign, digits of any script with single underscores between them, white space.
The reader accepts exactly these texts, and the decimal digits of a number are one of them. -/

namespace ClientWiring

namespace Number

inductive Run (digit? : Char → Option Nat) : List Char → List Nat → Prop
  | last {c : Char} {d : Nat} (digit : digit? c = some d) : Run digit? [c] [d]
  | next {c : Char} {d : Nat} {cs : List Char} {ds : List Nat} (digit : digit? c = some d)
      (rest : Run digit? cs ds) : Run digit? (c :: cs) (d :: ds)
  | apart {c : Char} {d : Nat} {cs : List Char} {ds : List Nat} (digit : digit? c = some d)
      (rest : Run digit? cs ds) : Run digit? (c :: '_' :: cs) (d :: ds)

inductive Sign : List Char → Bool → Prop
  | none : Sign [] false
  | plus : Sign ['+'] false
  | minus : Sign ['-'] true

inductive Denotes : List Char → Int → Prop
  | intro {front mark body back : List Char} {negative : Bool} {digits : List Nat}
      (before : ∀ c ∈ front, Text.isWhiteSpace c = true)
      (sign : Sign mark negative)
      (run : Run Text.decimalDigit? body digits)
      (short : digits.length ≤ digitLimit)
      (after : ∀ c ∈ back, Text.isWhiteSpace c = true) :
      Denotes (front ++ (mark ++ body) ++ back) (signed negative (ofDigits digits))

section Run

variable {digit? : Char → Option Nat} {cs : List Char} {ds : List Nat}

theorem Run.cons_cases (run : Run digit? cs ds) :
    ∃ c d rest digits, cs = c :: rest ∧ ds = d :: digits ∧ digit? c = some d := by
  cases run with
  | last digit => exact ⟨_, _, _, _, rfl, rfl, digit⟩
  | next digit rest => exact ⟨_, _, _, _, rfl, rfl, digit⟩
  | apart digit rest => exact ⟨_, _, _, _, rfl, rfl, digit⟩

theorem Run.last_digit (run : Run digit? cs ds) :
    ∃ front c d, cs = front ++ [c] ∧ digit? c = some d := by
  induction run with
  | @last c d digit => exact ⟨[], c, d, rfl, digit⟩
  | @next c _ _ _ _ _ ih =>
      obtain ⟨front, last, d, rfl, digit⟩ := ih
      exact ⟨c :: front, last, d, rfl, digit⟩
  | @apart c _ _ _ _ _ ih =>
      obtain ⟨front, last, d, rfl, digit⟩ := ih
      exact ⟨c :: '_' :: front, last, d, rfl, digit⟩

theorem Run.of_forall_digit {f : Char → Nat} (nonempty : cs ≠ [])
    (digits : ∀ c ∈ cs, digit? c = some (f c)) : Run digit? cs (cs.map f) := by
  induction cs with
  | nil => exact absurd rfl nonempty
  | cons c rest ih =>
      have first := digits c List.mem_cons_self
      cases rest with
      | nil => exact .last first
      | cons next others =>
          exact .next first (ih (List.cons_ne_nil _ _) fun c member =>
            digits c (List.mem_cons_of_mem _ member))

theorem digitRun_of_run (underscore : digit? '_' = none) (run : Run digit? cs ds)
    (afterDigit : Bool) : digitRun digit? afterDigit cs = some (ds, []) := by
  induction run generalizing afterDigit with
  | last digit =>
      rw [digitRun, digit]
      rfl
  | next digit _ ih =>
      rw [digitRun, digit]
      simp only [ih, Option.map_some]
  | apart digit _ ih =>
      rw [digitRun, digit]
      simp only [digitRun, underscore, if_true, ih, Option.map_some]

theorem run_of_digitRun {afterDigit : Bool}
    (scanned : digitRun digit? afterDigit cs = some (ds, [])) :
    Run digit? cs ds ∨ afterDigit = true ∧
      (cs = [] ∧ ds = [] ∨ ∃ rest, cs = '_' :: rest ∧ Run digit? rest ds) := by
  induction cs generalizing afterDigit ds with
  | nil =>
      unfold digitRun at scanned
      split at scanned
      next after =>
        cases scanned
        exact .inr ⟨after, .inl ⟨rfl, rfl⟩⟩
      · cases scanned
  | cons c rest ih =>
      rw [digitRun] at scanned
      cases digit : digit? c with
      | some d =>
          rw [digit] at scanned
          obtain ⟨⟨digits, left⟩, later, same⟩ := Option.map_eq_some_iff.mp scanned
          cases same
          left
          rcases ih later with run | ⟨-, ⟨rfl, rfl⟩ | ⟨others, rfl, run⟩⟩
          · exact .next digit run
          · exact .last digit
          · exact .apart digit run
      | none =>
          rw [digit] at scanned
          dsimp only at scanned
          split at scanned
          next underscore =>
            split at scanned
            next after =>
              rcases ih scanned with run | ⟨never, -⟩
              · exact .inr ⟨after, .inr ⟨rest, by rw [underscore], run⟩⟩
              · exact absurd never Bool.false_ne_true
            · cases scanned
          · split at scanned
            · cases scanned
            · cases scanned

theorem digitRun_eq_some_iff (underscore : digit? '_' = none) :
    digitRun digit? false cs = some (ds, []) ↔ Run digit? cs ds := by
  constructor
  · intro scanned
    exact (run_of_digitRun scanned).resolve_right fun never => Bool.false_ne_true never.1
  · intro run
    exact digitRun_of_run underscore run false

end Run

/-! ### Padding and signs -/

/-- The zeros of the scripts leave room for the white space between them. -/
theorem decimalZeros_apart : ∀ start ∈ Text.decimalZeros,
    start = 0x30 ∨ 0x660 ≤ start ∧ start ≤ 0x1090 ∨ 0x17E0 ≤ start ∧ start ≤ 0x1C50 ∨
      0xA620 ≤ start := by
  decide

theorem decimalDigit?_range {c : Char} {d : Nat} (digit : Text.decimalDigit? c = some d) :
    ∃ start ∈ Text.decimalZeros, start ≤ c.toNat ∧ c.toNat < start + 10 ∧ d = c.toNat - start := by
  obtain ⟨start, listed, here⟩ := List.exists_of_findSome?_eq_some digit
  split at here
  next inside => exact ⟨start, listed, inside.1, inside.2, (Option.some.inj here).symm⟩
  · cases here

theorem not_isWhiteSpace_of_digit {c : Char} {d : Nat} (digit : Text.decimalDigit? c = some d) :
    Text.isWhiteSpace c = false := by
  obtain ⟨start, listed, low, high, -⟩ := decimalDigit?_range digit
  have apart := decimalZeros_apart start listed
  simp only [Text.isWhiteSpace, Bool.or_eq_false_iff, Bool.and_eq_false_iff, decide_eq_false_iff_not,
    beq_eq_false_iff_ne]
  omega

theorem not_sign_of_digit {c : Char} {d : Nat} (digit : Text.decimalDigit? c = some d) :
    c ≠ '-' ∧ c ≠ '+' := by
  obtain ⟨start, listed, low, -⟩ := decimalDigit?_range digit
  have apart := decimalZeros_apart start listed
  constructor
  · rintro rfl
    have code : '-'.toNat = 0x2D := rfl
    omega
  · rintro rfl
    have code : '+'.toNat = 0x2B := rfl
    omega

theorem decimalDigit?_underscore : Text.decimalDigit? '_' = none := by decide

theorem splitSign_signed {sign body : List Char} {negative : Bool} (signed : Sign sign negative)
    (unsigned : ∀ c, body.head? = some c → c ≠ '-' ∧ c ≠ '+') :
    splitSign (sign ++ body) = (negative, body) := by
  cases signed with
  | plus => rfl
  | minus => rfl
  | none =>
      cases body with
      | nil => rfl
      | cons c rest =>
          obtain ⟨minus, plus⟩ := unsigned c rfl
          unfold splitSign
          split
          next same => exact absurd (List.cons.inj same).1 minus
          next same => exact absurd (List.cons.inj same).1 plus
          · rfl

theorem sign_of_splitSign {cs body : List Char} {negative : Bool}
    (split : splitSign cs = (negative, body)) :
    ∃ sign, Sign sign negative ∧ cs = sign ++ body := by
  unfold splitSign at split
  split at split
  · cases split
    exact ⟨_, .minus, rfl⟩
  · cases split
    exact ⟨_, .plus, rfl⟩
  · cases split
    exact ⟨_, .none, rfl⟩

end Number

namespace Text

variable {p : Char → Bool}

/-- A text is what trimming leaves, with padding on both sides. -/
theorem exists_padding (p : Char → Bool) (cs : List Char) :
    ∃ front back, cs = front ++ stripChars p cs ++ back ∧ (∀ c ∈ front, p c = true) ∧
      ∀ c ∈ back, p c = true := by
  refine ⟨cs.takeWhile p, (cs.dropWhile p).rtakeWhile p, ?_, fun c member => ?_, fun c member => ?_⟩
  · have back : stripChars p cs ++ (cs.dropWhile p).rtakeWhile p = cs.dropWhile p :=
      List.rdropWhile_append_rtakeWhile
    rw [List.append_assoc, back, List.takeWhile_append_dropWhile]
  · exact List.mem_takeWhile_imp member
  · exact List.mem_rtakeWhile_imp member

theorem stripChars_padded {front core back : List Char} (before : ∀ c ∈ front, p c = true)
    (after : ∀ c ∈ back, p c = true) (trimmed : stripChars p core = core) (nonempty : core ≠ []) :
    stripChars p (front ++ core ++ back) = core := by
  obtain ⟨first, last⟩ := (stripChars_eq_self_iff p core).mp trimmed
  obtain ⟨c, rest, rfl⟩ := List.exists_cons_of_ne_nil nonempty
  have leading : (front ++ (c :: rest) ++ back).dropWhile p = (c :: rest) ++ back := by
    rw [List.append_assoc, List.dropWhile_append_of_pos before, List.cons_append,
      List.dropWhile_cons_of_neg (by rw [first c rfl]; exact nofun)]
  have trailing : dropTrailing p ((c :: rest) ++ back) = c :: rest := by
    have reversed : ∀ c ∈ back.reverse, p c = true := fun c member =>
      after c (List.mem_reverse.mp member)
    have stops : ((c :: rest).reverse).dropWhile p = (c :: rest).reverse := by
      have kept := (List.rdropWhile_eq_self_iff (p := p) (l := c :: rest)).mpr fun hl same =>
        absurd same (by rw [last _ (List.getLast?_eq_some_getLast hl)]; exact nofun)
      exact List.reverse_injective ((List.reverse_reverse _).trans kept.symm).symm
    rw [dropTrailing, List.reverse_append, List.dropWhile_append_of_pos reversed, stops,
      List.reverse_reverse]
  rw [stripChars, leading, trailing]

end Text

namespace Number

theorem Denotes.readWhole_eq {s : List Char} {n : Int} (denotes : Denotes s n) :
    readWhole s = .ok n := by
  cases denotes with
  | @intro front mark body back negative digits before sign run short after =>
  obtain ⟨first, _, rest, _, starts, -, digit⟩ := run.cons_cases
  obtain ⟨init, last, _, ends, lastDigit⟩ := run.last_digit
  have unsigned : ∀ c, body.head? = some c → c ≠ '-' ∧ c ≠ '+' := by
    intro c head
    rw [starts] at head
    cases head
    exact not_sign_of_digit digit
  -- Neither the sign or first digit nor the last digit is white space.
  have trimmed : Text.stripChars Text.isWhiteSpace (mark ++ body) = mark ++ body := by
    refine (Text.stripChars_eq_self_iff _ _).mpr ⟨fun c head => ?_, fun c tail => ?_⟩
    · cases sign with
      | none =>
          rw [starts] at head
          cases head
          exact not_isWhiteSpace_of_digit digit
      | plus =>
          cases head
          decide
      | minus =>
          cases head
          decide
    · rw [ends, ← List.append_assoc, List.getLast?_concat] at tail
      cases tail
      exact not_isWhiteSpace_of_digit lastDigit
  have nonempty : mark ++ body ≠ [] := by
    rw [starts]
    exact List.append_ne_nil_of_right_ne_nil _ (List.cons_ne_nil _ _)
  unfold readWhole
  rw [Text.stripChars_padded before after trimmed nonempty, splitSign_signed sign unsigned]
  dsimp only
  rw [digitRun_of_run decimalDigit?_underscore run]
  dsimp only
  rw [if_neg (Nat.not_lt.mpr short)]
  rfl

/-- The reader accepts exactly the texts that denote a whole number, as that number. -/
theorem readWhole_eq_ok_iff (s : List Char) (n : Int) : readWhole s = .ok n ↔ Denotes s n := by
  refine ⟨fun read => ?_, Denotes.readWhole_eq⟩
  obtain ⟨front, back, padded, before, after⟩ := Text.exists_padding Text.isWhiteSpace s
  unfold readWhole at read
  rcases split : splitSign (Text.stripChars Text.isWhiteSpace s) with ⟨negative, body⟩
  obtain ⟨mark, sign, stripped⟩ := sign_of_splitSign split
  rw [split] at read
  dsimp only at read
  cases scanned : digitRun Text.decimalDigit? false body with
  | none =>
      rw [scanned] at read
      cases read
  | some found =>
      obtain ⟨digits, left⟩ := found
      rw [scanned] at read
      dsimp only at read
      split at read
      · cases read
      next short =>
        split at read
        next whole =>
          cases read
          rw [List.isEmpty_iff.mp whole] at scanned
          rw [padded, stripped]
          exact .intro before sign ((digitRun_eq_some_iff decimalDigit?_underscore).mp scanned)
            (Nat.not_lt.mp short) after
        · cases read

theorem readWhole_eq_error_iff (s : List Char) :
    (∃ e, readWhole s = .error e) ↔ ¬ ∃ n, Denotes s n := by
  constructor
  · rintro ⟨e, failed⟩ ⟨n, denotes⟩
    cases failed.symm.trans denotes.readWhole_eq
  · intro none
    cases read : readWhole s with
    | error e => exact ⟨e, rfl⟩
    | ok n => exact absurd ⟨n, (readWhole_eq_ok_iff s n).mp read⟩ none

/-! ### Decimal digits -/

theorem isDigit_range {c : Char} (digit : c.isDigit = true) : 0x30 ≤ c.toNat ∧ c.toNat ≤ 0x39 := by
  obtain ⟨low, high⟩ := Bool.and_eq_true_iff.mp digit
  exact ⟨UInt32.le_iff_toNat_le.mp (of_decide_eq_true low),
    UInt32.le_iff_toNat_le.mp (of_decide_eq_true high)⟩

theorem decimalDigit?_of_isDigit {c : Char} (digit : c.isDigit = true) :
    Text.decimalDigit? c = some (c.toNat - 0x30) := by
  obtain ⟨low, high⟩ := isDigit_range digit
  have inside : 0x30 ≤ c.toNat ∧ c.toNat < 0x30 + 10 := ⟨low, by omega⟩
  rw [Text.decimalDigit?, Text.decimalZeros, List.findSome?_cons, if_pos inside]

theorem isDigit_of_mem_decimal {n : Nat} {c : Char} (member : c ∈ Nat.toDigits 10 n) :
    c.isDigit = true :=
  Nat.isDigit_of_mem_toDigits (by omega) (by omega) member

theorem decimal_ne_nil (n : Nat) : Nat.toDigits 10 n ≠ [] := by
  rw [Nat.toDigits_eq_if (by omega)]
  split
  · exact List.cons_ne_nil _ _
  · exact List.append_ne_nil_of_right_ne_nil _ (List.cons_ne_nil _ _)

/-- The decimal digits of a number denote it. -/
theorem ofDigits_decimal (n : Nat) :
    ofDigits ((Nat.toDigits 10 n).map fun c => c.toNat - 0x30) = n := by
  have folded : Nat.ofDigitChars 10 (Nat.toDigits 10 n) 0 = n :=
    Nat.ofDigitChars_toDigits (by omega) (by omega)
  rw [Nat.ofDigitChars_eq_foldl] at folded
  rw [ofDigits, List.foldl_map]
  exact folded

theorem denotes_decimal {n : Nat} (short : (Nat.toDigits 10 n).length ≤ digitLimit) :
    Denotes (Nat.toDigits 10 n) n := by
  have run : Run Text.decimalDigit? (Nat.toDigits 10 n)
      ((Nat.toDigits 10 n).map fun c => c.toNat - 0x30) :=
    .of_forall_digit (decimal_ne_nil n) fun c member =>
      decimalDigit?_of_isDigit (isDigit_of_mem_decimal member)
  have denotes : Denotes ([] ++ ([] ++ Nat.toDigits 10 n) ++ []) _ :=
    .intro nofun .none run (by rwa [List.length_map]) nofun
  rwa [ofDigits_decimal, List.nil_append, List.nil_append, List.append_nil] at denotes

end Number

end ClientWiring
