set_option autoImplicit false

/-! Two classes of white space and the trimming they induce. A configured value that is all blank
counts as absent, so the larger class decides presence; the smaller one is what may pad a number. -/

namespace ClientWiring.Text

/-- The Unicode property White_Space: the characters that may pad a number. -/
def isWhiteSpace (c : Char) : Bool :=
  let n := c.toNat
  (9 ≤ n && n ≤ 13) || n == 0x20 || n == 0x85 || n == 0xA0 || n == 0x1680 ||
    (0x2000 ≤ n && n ≤ 0x200A) || n == 0x2028 || n == 0x2029 || n == 0x202F || n == 0x205F ||
    n == 0x3000

def isBlank (c : Char) : Bool :=
  isWhiteSpace c || (0x1C ≤ c.toNat && c.toNat ≤ 0x1F)

section Strip

variable {α : Type}

def dropTrailing (p : α → Bool) (cs : List α) : List α :=
  (cs.reverse.dropWhile p).reverse

def stripChars (p : α → Bool) (cs : List α) : List α :=
  dropTrailing p (cs.dropWhile p)

end Strip

def trim (s : String) : String :=
  String.ofList (stripChars isBlank s.toList)

def allBlank (s : String) : Bool :=
  s.toList.all isBlank

private theorem dropWhile_eq_nil (p : Char → Bool) (cs : List Char) :
    cs.dropWhile p = [] ↔ cs.all p = true := by
  induction cs with
  | nil => simp
  | cons c rest ih =>
      by_cases here : p c = true
      · simp [List.dropWhile, here, ih]
      · simp [List.dropWhile, here]

private theorem all_of_all_dropWhile (p : Char → Bool) (cs : List Char)
    (rest : (cs.dropWhile p).all p = true) : cs.all p = true := by
  induction cs with
  | nil => rfl
  | cons c tail ih =>
      by_cases here : p c = true
      · simp only [List.dropWhile, here] at rest
        rw [List.all_cons, here, ih rest]
        rfl
      · simp only [List.dropWhile, here] at rest
        exact rest

theorem stripChars_eq_nil_iff (p : Char → Bool) (cs : List Char) :
    stripChars p cs = [] ↔ cs.all p = true := by
  unfold stripChars dropTrailing
  rw [List.reverse_eq_nil_iff, dropWhile_eq_nil, List.all_reverse]
  constructor
  · exact all_of_all_dropWhile p cs
  · intro every
    rw [(dropWhile_eq_nil p cs).mpr every]
    rfl

theorem trim_eq_empty_iff (s : String) : trim s = "" ↔ allBlank s = true := by
  rw [allBlank, ← stripChars_eq_nil_iff]
  constructor
  · intro empty
    have chars := congrArg String.toList empty
    simpa [trim] using chars
  · intro empty
    simp [trim, empty]

end ClientWiring.Text
