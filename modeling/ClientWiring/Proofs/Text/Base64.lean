import ClientWiring.Text.Base64
import ClientWiring.Text.Blank
set_option autoImplicit false

/-! Base64 texts are read back: decoding what encoding writes returns the bytes. The characters of
such a text are plain, so neither white space nor a hyphen is among them. -/

namespace ClientWiring.Text

/-! ### Digits -/

theorem base64Value?_base64Digit {n : Nat} (small : n < 64) :
    base64Value? (base64Digit n) = some n := by
  have each : ∀ n < 64, base64Value? (base64Digit n) = some n := by decide
  exact each n small

theorem base64Digit_ne_padding {n : Nat} (small : n < 64) : base64Digit n ≠ '=' := by
  have each : ∀ n < 64, base64Digit n ≠ '=' := by decide
  exact each n small

structure IsPlain (c : Char) : Prop where
  filled : isWhiteSpace c = false
  unhyphened : c ≠ '-'
  short : c.toNat < 128

instance (c : Char) : Decidable (IsPlain c) :=
  decidable_of_iff (isWhiteSpace c = false ∧ c ≠ '-' ∧ c.toNat < 128)
    ⟨fun ⟨filled, unhyphened, short⟩ => ⟨filled, unhyphened, short⟩,
      fun plain => ⟨plain.filled, plain.unhyphened, plain.short⟩⟩

theorem isPlain_base64Digit {n : Nat} (small : n < 64) : IsPlain (base64Digit n) := by
  have each : ∀ n < 64, IsPlain (base64Digit n) := by decide
  exact each n small

theorem isPlain_padding : IsPlain '=' := by decide

theorem isPlain_of_mem_encodeBase64 (bytes : List UInt8) :
    ∀ c ∈ encodeBase64 bytes, IsPlain c := by
  have digit (n : Nat) : IsPlain (base64Digit (n % 64)) :=
    isPlain_base64Digit (Nat.mod_lt n (by decide))
  fun_induction encodeBase64 bytes with
  | case1 => exact List.forall_mem_nil _
  | case2 a n =>
      have small : n / 64 < 64 := by
        have bound := a.toNat_lt
        omega
      simp only [List.forall_mem_cons]
      exact ⟨isPlain_base64Digit small, digit n, isPlain_padding, isPlain_padding,
        List.forall_mem_nil _⟩
  | case3 a b n =>
      have small : n / 4096 < 64 := by
        have first := a.toNat_lt
        have second := b.toNat_lt
        omega
      simp only [List.forall_mem_cons]
      exact ⟨isPlain_base64Digit small, digit _, digit _, isPlain_padding,
        List.forall_mem_nil _⟩
  | case4 a b c rest n ih =>
      have small : n / 262144 < 64 := by
        have first := a.toNat_lt
        have second := b.toNat_lt
        have third := c.toNat_lt
        omega
      simp only [List.forall_mem_cons]
      exact ⟨isPlain_base64Digit small, digit _, digit _, digit _, ih⟩

theorem encodeBase64_ne_nil {bytes : List UInt8} (filled : bytes ≠ []) :
    encodeBase64 bytes ≠ [] := by
  fun_cases encodeBase64 bytes with
  | case1 => exact absurd rfl filled
  | case2 => exact List.cons_ne_nil _ _
  | case3 => exact List.cons_ne_nil _ _
  | case4 => exact List.cons_ne_nil _ _

/-! ### Groups -/

theorem base64Group?_digits (a b c : UInt8) :
    let n := (a.toNat * 256 + b.toNat) * 256 + c.toNat
    base64Group? (base64Digit (n / 262144)) (base64Digit (n / 4096 % 64))
      (base64Digit (n / 64 % 64)) (base64Digit (n % 64)) = some [a, b, c] := by
  intro n
  have first := a.toNat_lt
  have second := b.toNat_lt
  have third := c.toNat_lt
  have whole : ((n / 262144 * 64 + n / 4096 % 64) * 64 + n / 64 % 64) * 64 + n % 64 = n := by omega
  have high : n / 65536 = a.toNat := by omega
  have middle : n / 256 % 256 = b.toNat := by omega
  have low : n % 256 = c.toNat := by omega
  simp only [base64Group?, base64Value?_base64Digit (show n / 262144 < 64 by omega),
    base64Value?_base64Digit (show n / 4096 % 64 < 64 by omega),
    base64Value?_base64Digit (show n / 64 % 64 < 64 by omega),
    base64Value?_base64Digit (show n % 64 < 64 by omega), Option.bind_eq_bind, Option.bind_some,
    Option.pure_def, whole, high, middle, low, UInt8.ofNat_toNat]

theorem base64LastGroup?_one (a : UInt8) :
    let n := a.toNat * 16
    base64LastGroup? (base64Digit (n / 64)) (base64Digit (n % 64)) '=' '=' = some [a] := by
  intro n
  have bound := a.toNat_lt
  have unused : n % 64 % 16 = 0 := by omega
  have whole : n / 64 * 4 + n % 64 / 16 = a.toNat := by omega
  simp only [base64LastGroup?, base64Value?_base64Digit (show n / 64 < 64 by omega),
    base64Value?_base64Digit (show n % 64 < 64 by omega), Option.bind_eq_bind, Option.bind_some,
    Option.pure_def, unused, whole, UInt8.ofNat_toNat, if_true]

theorem base64LastGroup?_two (a b : UInt8) :
    let n := (a.toNat * 256 + b.toNat) * 4
    base64LastGroup? (base64Digit (n / 4096)) (base64Digit (n / 64 % 64))
      (base64Digit (n % 64)) '=' = some [a, b] := by
  intro n
  have first := a.toNat_lt
  have second := b.toNat_lt
  have unused : n % 64 % 4 = 0 := by omega
  have whole : (n / 4096 * 64 + n / 64 % 64) * 64 + n % 64 = n := by omega
  have high : n / 1024 = a.toNat := by omega
  have low : n / 4 % 256 = b.toNat := by omega
  have digit : base64Digit (n % 64) ≠ '=' := base64Digit_ne_padding (by omega)
  simp only [base64LastGroup?, if_neg digit, base64Value?_base64Digit (show n / 4096 < 64 by omega),
    base64Value?_base64Digit (show n / 64 % 64 < 64 by omega),
    base64Value?_base64Digit (show n % 64 < 64 by omega), Option.bind_eq_bind, Option.bind_some,
    Option.pure_def, unused, whole, high, low, UInt8.ofNat_toNat, if_true]

/-! ### Whole texts -/

theorem decodeBase64From_cons {a b c d : Char} {group : List UInt8} {rest : List Char}
    (filled : rest ≠ []) (decoded : base64Group? a b c d = some group) (done : List UInt8) :
    decodeBase64From done (a :: b :: c :: d :: rest) =
      decodeBase64From (group.reverse ++ done) rest := by
  cases rest with
  | nil => exact absurd rfl filled
  | cons e rest => simp only [decodeBase64From, decoded]

theorem decodeBase64From_encodeBase64 (done bytes : List UInt8) :
    decodeBase64From done (encodeBase64 bytes) = some (done.reverse ++ bytes) := by
  fun_induction encodeBase64 bytes generalizing done with
  | case1 => simp [decodeBase64From]
  | case2 a n => rw [decodeBase64From, base64LastGroup?_one, Option.map_some]
  | case3 a b n => rw [decodeBase64From, base64LastGroup?_two, Option.map_some]
  | case4 a b c rest n ih =>
      have decoded := base64Group?_digits a b c
      by_cases last : rest = []
      · -- the last group has no padding, so it is decoded like those before it
        have digit : base64Digit (n % 64) ≠ '=' :=
          base64Digit_ne_padding (Nat.mod_lt n (by decide))
        rw [last, encodeBase64, decodeBase64From, base64LastGroup?, if_neg digit, decoded,
          Option.map_some]
      · rw [decodeBase64From_cons (encodeBase64_ne_nil last) decoded, ih]
        simp

theorem decodeBase64?_encodeBase64 (bytes : List UInt8) :
    decodeBase64? (encodeBase64 bytes) = some bytes :=
  decodeBase64From_encodeBase64 [] bytes

end ClientWiring.Text
