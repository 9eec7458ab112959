import ClientWiring.Json.Reader
import ClientWiring.Json.Writer
import Mathlib.Logic.Basic
set_option autoImplicit false

/-! Strings are written in printable ASCII and read back character by character. An escape is read
as the character that it was written for; above the basic plane the two halves of a pair belong to
one character. -/

namespace ClientWiring

def Text.IsPrintableAscii (c : Char) : Prop :=
  0x20 ≤ c.toNat ∧ c.toNat ≤ 0x7E

instance (c : Char) : Decidable (Text.IsPrintableAscii c) := by
  unfold Text.IsPrintableAscii
  infer_instance

namespace Json

section Units

theorem hexDigit_isPrintable : ∀ d < 16, Text.IsPrintableAscii (Text.hexDigit d) := by
  decide

theorem hexDigits_four (n : Nat) : Text.hexDigits 4 n =
    [Text.hexDigit (n / 4096 % 16), Text.hexDigit (n / 256 % 16), Text.hexDigit (n / 16 % 16),
      Text.hexDigit (n / 1 % 16)] := rfl

end Units

section Escapes

variable {c : Char} {fuel : Nat} {done rest : CodePoints}

theorem escapedChar_of_unnamed (named : c ∉ ['"', '\\', '\n', '\r', '\t', '\x08', '\x0c']) :
    escapedChar c =
      if 0x20 ≤ c.toNat ∧ c.toNat ≤ 0x7E then [c]
      else if c.toNat < 0x10000 then unitEscape c.toNat
      else unitEscape (0xD800 + (c.toNat - 0x10000) / 0x400) ++
        unitEscape (0xDC00 + (c.toNat - 0x10000) % 0x400) := by
  simp only [List.mem_cons, List.not_mem_nil, or_false, not_or] at named
  obtain ⟨quote, escape, line, back, tab, bell, page⟩ := named
  have bellCode : c.toNat ≠ 0x08 := fun same => bell (Char.toNat_inj.mp same)
  have pageCode : c.toNat ≠ 0x0C := fun same => page (Char.toNat_inj.mp same)
  have printable : (decide (0x20 ≤ c.toNat) && decide (c.toNat ≤ 0x7E)) = true ↔
      0x20 ≤ c.toNat ∧ c.toNat ≤ 0x7E := by
    rw [Bool.and_eq_true, decide_eq_true_iff, decide_eq_true_iff]
  unfold escapedChar
  dsimp only
  rw [if_neg (mt beq_iff_eq.mp quote), if_neg (mt beq_iff_eq.mp escape),
    if_neg (mt beq_iff_eq.mp line), if_neg (mt beq_iff_eq.mp back),
    if_neg (mt beq_iff_eq.mp tab), if_neg (mt beq_iff_eq.mp bellCode),
    if_neg (mt beq_iff_eq.mp pageCode), if_congr printable rfl rfl]

theorem escapedChar_of_named (named : c ∈ ['"', '\\', '\n', '\r', '\t', '\x08', '\x0c']) :
    ∃ letter, escapedChar c = ['\\', letter] ∧ simpleEscape? letter = some c ∧ letter ≠ 'u' ∧
      Text.IsPrintableAscii letter := by
  simp only [List.mem_cons, List.not_mem_nil, or_false] at named
  rcases named with rfl | rfl | rfl | rfl | rfl | rfl | rfl
  · exact ⟨'"', rfl, rfl, by decide, by decide⟩
  · exact ⟨'\\', rfl, rfl, by decide, by decide⟩
  · exact ⟨'n', rfl, rfl, by decide, by decide⟩
  · exact ⟨'r', rfl, rfl, by decide, by decide⟩
  · exact ⟨'t', rfl, rfl, by decide, by decide⟩
  · exact ⟨'b', rfl, rfl, by decide, by decide⟩
  · exact ⟨'f', rfl, rfl, by decide, by decide⟩

/-- The escape of a character: a letter behind a backslash, the character itself, one unit, or the two
halves of a pair. -/
theorem escapedChar_cases (c : Char) :
    (∃ letter, escapedChar c = ['\\', letter] ∧ simpleEscape? letter = some c ∧ letter ≠ 'u' ∧
      Text.IsPrintableAscii letter) ∨
    (escapedChar c = [c] ∧ c ≠ '"' ∧ c ≠ '\\' ∧ Text.IsPrintableAscii c) ∨
    (escapedChar c = unitEscape c.toNat ∧ c.toNat < 0x10000) ∨
    (escapedChar c = unitEscape (0xD800 + (c.toNat - 0x10000) / 0x400) ++
      unitEscape (0xDC00 + (c.toNat - 0x10000) % 0x400) ∧ 0x10000 ≤ c.toNat) := by
  by_cases named : c ∈ ['"', '\\', '\n', '\r', '\t', '\x08', '\x0c']
  · exact .inl (escapedChar_of_named named)
  · have escape := escapedChar_of_unnamed named
    by_cases printable : 0x20 ≤ c.toNat ∧ c.toNat ≤ 0x7E
    · rw [if_pos printable] at escape
      refine .inr (.inl ⟨escape, ?_, ?_, printable⟩)
      · rintro rfl
        exact named List.mem_cons_self
      · rintro rfl
        exact named (List.mem_cons_of_mem _ List.mem_cons_self)
    · rw [if_neg printable] at escape
      by_cases basic : c.toNat < 0x10000
      · rw [if_pos basic] at escape
        exact .inr (.inr (.inl ⟨escape, basic⟩))
      · rw [if_neg basic] at escape
        exact .inr (.inr (.inr ⟨escape, Nat.not_lt.mp basic⟩))

end Escapes

section Characters

theorem unitEscape_isPrintable (unit : Nat) : ∀ c ∈ unitEscape unit, Text.IsPrintableAscii c := by
  have digit (n : Nat) : Text.IsPrintableAscii (Text.hexDigit (n % 16)) :=
    hexDigit_isPrintable _ (Nat.mod_lt _ (Nat.zero_lt_succ 15))
  rw [unitEscape, hexDigits_four]
  simp only [List.forall_mem_cons, digit, true_and]
  exact ⟨by decide, by decide, nofun⟩

theorem simpleEscape_isPrintable {letter : Char} (printable : Text.IsPrintableAscii letter) :
    ∀ c ∈ ['\\', letter], Text.IsPrintableAscii c := by
  intro c member
  rcases List.mem_cons.mp member with rfl | member
  · decide
  · rw [List.mem_singleton.mp member]
    exact printable

theorem escapedChar_isPrintable (c : Char) : ∀ d ∈ escapedChar c, Text.IsPrintableAscii d := by
  rcases escapedChar_cases c with ⟨letter, escape, -, -, printable⟩ |
    ⟨escape, -, -, printable⟩ | ⟨escape, -⟩ | ⟨escape, -⟩
  · rw [escape]
    exact simpleEscape_isPrintable printable
  · rw [escape]
    exact List.forall_mem_singleton.mpr printable
  · rw [escape]
    exact unitEscape_isPrintable _
  · rw [escape]
    exact List.forall_mem_append.mpr ⟨unitEscape_isPrintable _, unitEscape_isPrintable _⟩

theorem writeString_isPrintable (s : String) : ∀ c ∈ writeString s, Text.IsPrintableAscii c := by
  have quote : Text.IsPrintableAscii '"' := by decide
  refine List.forall_mem_cons.mpr ⟨quote, List.forall_mem_append.mpr
    ⟨fun d member => ?_, List.forall_mem_singleton.mpr quote⟩⟩
  obtain ⟨c, -, inside⟩ := List.mem_flatMap.mp member
  exact escapedChar_isPrintable c d inside

end Characters

end Json

end ClientWiring
