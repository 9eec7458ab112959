set_option autoImplicit false

/-! Punycode: a label of any characters in ASCII. The ASCII characters come first, and the others
follow as the distances between them, counted in code points and positions, in numerals of base 36
whose digit thresholds adapt to the distances seen. -/

namespace ClientWiring.Url.Punycode

def digit (n : Nat) : Char :=
  if n < 26 then Char.ofNat (0x61 + n) else Char.ofNat (0x30 + (n - 26))

def value? (c : Char) : Option Nat :=
  let n := c.toNat
  if 0x61 ≤ n ∧ n ≤ 0x7A then some (n - 0x61)
  else if 0x41 ≤ n ∧ n ≤ 0x5A then some (n - 0x41)
  else if 0x30 ≤ n ∧ n ≤ 0x39 then some (n - 0x30 + 26)
  else none

/-- The threshold of a digit position, which counts up in steps of 36. -/
def threshold (position bias : Nat) : Nat :=
  if position ≤ bias then 1 else if bias + 26 ≤ position then 26 else position - bias

theorem threshold_bounds (position bias : Nat) :
    1 ≤ threshold position bias ∧ threshold position bias ≤ 26 := by
  unfold threshold
  split
  · omega
  · split <;> omega

def scaleDown (delta count : Nat) : Nat × Nat :=
  if 455 < delta then scaleDown (delta / 35) (count + 36) else (delta, count)
termination_by delta
decreasing_by omega

def adapt (delta placed : Nat) (first : Bool) : Nat :=
  let halved := if first then delta / 700 else delta / 2
  let scaled := scaleDown (halved + halved / placed) 0
  scaled.2 + 36 * scaled.1 / (scaled.1 + 38)

def numeral (bias position n : Nat) : List Char :=
  let limit := threshold position bias
  if n < limit then [digit n]
  else
    digit (limit + (n - limit) % (36 - limit)) ::
      numeral bias (position + 36) ((n - limit) / (36 - limit))
termination_by n
decreasing_by
  have bounds := threshold_bounds position bias
  have smaller := Nat.div_le_self (n - threshold position bias) (36 - threshold position bias)
  omega

/-- The state of encoding: the numerals so far, the distance since the last placed character, the
bias, and the number of characters placed. -/
structure Progress where
  output : List Char
  delta : Nat
  bias : Nat
  placed : Nat

/-- One character of the label in the round for a code point: smaller ones lengthen the distance,
and the code point itself is placed. -/
def step (basics code : Nat) (state : Progress) (c : Char) : Progress :=
  if c.toNat < code then { state with delta := state.delta + 1 }
  else if c.toNat = code then
    { output := state.output ++ numeral state.bias 36 state.delta
      delta := 0
      bias := adapt state.delta (state.placed + 1) (state.placed == basics)
      placed := state.placed + 1 }
  else state

def rounds (label : List Char) (basics : Nat) : List Nat → Nat → Progress → Progress
  | [], _, state => state
  | code :: rest, least, state =>
    let moved := { state with delta := state.delta + (code - least) * (state.placed + 1) }
    let placed := label.foldl (step basics code) moved
    rounds label basics rest (code + 1) { placed with delta := placed.delta + 1 }

/-- Numbers in increasing order, each once. -/
def insertNumber (n : Nat) : List Nat → List Nat
  | [] => [n]
  | m :: rest =>
    if n < m then n :: m :: rest else if n = m then m :: rest else m :: insertNumber n rest

def encode (label : List Char) : List Char :=
  let basic := label.filter fun c => c.toNat < 0x80
  let codes := (label.map Char.toNat).filter (0x80 ≤ ·)
  let extended := rounds label basic.length (codes.foldr insertNumber []) 0x80
    ⟨[], 0, 72, basic.length⟩
  (if basic.isEmpty then [] else basic ++ ['-']) ++ extended.output

def readNumeral (bias : Nat) : Nat → Nat → Nat → List Char → Option (Nat × List Char)
  | _, _, _, [] => none
  | position, weight, total, c :: rest =>
    match value? c with
    | none => none
    | some n =>
      let limit := threshold position bias
      let total := total + n * weight
      if n < limit then some (total, rest)
      else readNumeral bias (position + 36) (weight * (36 - limit)) total rest

theorem readNumeral_shorter {bias position weight total : Nat} {cs : List Char} {n : Nat}
    {rest : List Char} (read : readNumeral bias position weight total cs = some (n, rest)) :
    rest.length < cs.length := by
  induction cs generalizing position weight total with
  | nil => simp [readNumeral] at read
  | cons c tail ih =>
      unfold readNumeral at read
      split at read
      · cases read
      · dsimp only at read
        split at read
        · have same := congrArg Prod.snd (Option.some.inj read)
          simp only at same
          rw [← same]
          exact Nat.lt_succ_self _
        · exact Nat.lt_succ_of_lt (ih read)

def place (label : List Nat) (code position bias : Nat) (cs : List Char) : Option (List Nat) :=
  match cs with
  | [] => some label
  | c :: more =>
    match read : readNumeral bias 36 1 0 (c :: more) with
    | none => none
    | some (delta, rest) =>
      let placed := label.length + 1
      let target := position + delta
      let code := code + target / placed
      let position := target % placed
      if 0x10FFFF < code then none
      else
        place (label.take position ++ code :: label.drop position) code (position + 1)
          (adapt delta placed (label.all (· < 0x80))) rest
termination_by cs.length
decreasing_by exact readNumeral_shorter read

def decode? (cs : List Char) : Option (List Nat) :=
  let reversed := cs.reverse
  let extended := (reversed.takeWhile (· != '-')).reverse
  let basic := (reversed.dropWhile (· != '-')).reverse.dropLast
  if basic.all fun c => c.toNat < 0x80 then place (basic.map Char.toNat) 0x80 0 72 extended
  else none

end ClientWiring.Url.Punycode
