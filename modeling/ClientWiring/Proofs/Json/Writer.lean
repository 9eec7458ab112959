import ClientWiring.Proofs.Dictionary
import ClientWiring.Proofs.Json.Escape
import ClientWiring.Proofs.Json.Numeral
set_option autoImplicit false

/-! What is written is read back. A value that JSON has a form for is found again in its text, at any
depth, by every reader whose limits are wide enough for it. It is refused only for the digits of its
whole numbers or for its depth. -/

namespace ClientWiring

namespace Value

mutual

/-- The greatest measure in a value, where every level of lists and dictionaries adds `level`. -/
def most (number : Int → Nat) (level : Nat) : Value → Nat
  | .int n => number n
  | .list items => mostOfItems number level items + level
  | .tuple items => mostOfItems number level items + level
  | .dict entries => mostOfEntries number level entries + level
  | _ => 0

def mostOfItems (number : Int → Nat) (level : Nat) : List Value → Nat
  | [] => 0
  | item :: rest => max (most number level item) (mostOfItems number level rest)

def mostOfEntries (number : Int → Nat) (level : Nat) : List (String × Value) → Nat
  | [] => 0
  | (_, item) :: rest => max (most number level item) (mostOfEntries number level rest)

end

def nesting (value : Value) : Nat :=
  value.most (fun _ => 0) 1

def digits (value : Value) : Nat :=
  value.most (fun n => (Nat.toDigits 10 n.natAbs).length) 0

variable {number : Int → Nat} {level bound : Nat}

theorem mostOfItems_le_iff {items : List Value} :
    mostOfItems number level items ≤ bound ↔ ∀ item ∈ items, item.most number level ≤ bound := by
  induction items with
  | nil => exact iff_of_true (Nat.zero_le _) nofun
  | cons first rest ih => rw [mostOfItems, Nat.max_le, ih, List.forall_mem_cons]

theorem mostOfEntries_le_iff {entries : Dictionary Value} :
    mostOfEntries number level entries ≤ bound ↔
      ∀ entry ∈ entries, entry.2.most number level ≤ bound := by
  induction entries with
  | nil => exact iff_of_true (Nat.zero_le _) nofun
  | cons first rest ih => rw [mostOfEntries, Nat.max_le, ih, List.forall_mem_cons]

theorem nesting_list_le_iff {items : List Value} {levels : Nat} :
    (list items).nesting ≤ levels + 1 ↔ ∀ item ∈ items, item.nesting ≤ levels :=
  Nat.succ_le_succ_iff.trans mostOfItems_le_iff

theorem nesting_dict_le_iff {entries : Dictionary Value} {levels : Nat} :
    (dict entries).nesting ≤ levels + 1 ↔ ∀ entry ∈ entries, entry.2.nesting ≤ levels :=
  Nat.succ_le_succ_iff.trans mostOfEntries_le_iff

theorem digits_list_le_iff {items : List Value} :
    (list items).digits ≤ bound ↔ ∀ item ∈ items, item.digits ≤ bound :=
  mostOfItems_le_iff

theorem digits_dict_le_iff {entries : Dictionary Value} :
    (dict entries).digits ≤ bound ↔ ∀ entry ∈ entries, entry.2.digits ≤ bound :=
  mostOfEntries_le_iff

/-! ### What is refused -/

section Refusal

variable {form : WriteForm} {levels : Nat}

end Refusal

/-! ### What a text denotes -/

mutual

def node : Value → Json.Node
  | null => .null
  | bool b => .bool b
  | int n => .int n
  | float x => .float x
  | text s => .text (CodePoints.ofString s)
  | bytes b => .text (CodePoints.ofString (bytes b).plain)
  | list items => .list (nodes items)
  | tuple items => .list (nodes items)
  | dict entries => .dict (members entries)
  | style s => .text (CodePoints.ofString s.name)
  | encoder m => .text (CodePoints.ofString m.name)

def nodes : List Value → List Json.Node
  | [] => []
  | item :: rest => node item :: nodes rest

def members : List (String × Value) → List (CodePoints × Json.Node)
  | [] => []
  | (key, item) :: rest => (CodePoints.ofString key, node item) :: members rest

end

end Value

namespace Json

structure Limits.Allow (limits : Limits) (depth : Nat) (value : Value) : Prop where
  nesting : value.nesting ≤ depth
  digits : ∀ limit ∈ limits.digits, value.digits ≤ limit

namespace Limits.Allow

variable {limits : Limits} {depth : Nat}

theorem item {items : List Value} (allow : limits.Allow (depth + 1) (.list items)) {item : Value}
    (member : item ∈ items) : limits.Allow depth item :=
  ⟨Value.nesting_list_le_iff.mp allow.nesting item member,
    fun limit limited => Value.digits_list_le_iff.mp (allow.digits limit limited) item member⟩

theorem entry {entries : Dictionary Value} (allow : limits.Allow (depth + 1) (.dict entries))
    {entry : String × Value} (member : entry ∈ entries) : limits.Allow depth entry.2 :=
  ⟨Value.nesting_dict_le_iff.mp allow.nesting entry member,
    fun limit limited => Value.digits_dict_le_iff.mp (allow.digits limit limited) entry member⟩

theorem text (s : String) : limits.Allow depth (.text s) :=
  ⟨Nat.zero_le _, fun limit _ => Nat.zero_le limit⟩

theorem dict {entries : Dictionary Value} (each : ∀ entry ∈ entries, limits.Allow depth entry.2) :
    limits.Allow (depth + 1) (.dict entries) :=
  ⟨Value.nesting_dict_le_iff.mpr fun entry member => (each entry member).nesting,
    fun limit limited => Value.digits_dict_le_iff.mpr fun entry member =>
      (each entry member).digits limit limited⟩

end Limits.Allow

/-! ### The first character of a text -/

/-- A text that begins with a character that is no blank and closes no list. -/
def Begins (cs : List Char) : Prop :=
  ∃ c rest, cs = c :: rest ∧ isSpace c = false ∧ c ≠ ']'

theorem Begins.append {cs : List Char} (begins : Begins cs) (tail : List Char) :
    Begins (cs ++ tail) := by
  obtain ⟨c, rest, rfl, solid, other⟩ := begins
  exact ⟨c, rest ++ tail, rfl, solid, other⟩

theorem isAsciiDigit_range {c : Char} (digit : Text.isAsciiDigit c = true) :
    0x30 ≤ c.toNat ∧ c.toNat ≤ 0x39 := by
  rwa [Text.isAsciiDigit, Bool.and_eq_true, decide_eq_true_iff, decide_eq_true_iff] at digit

variable {limits : Limits} {fuel depth : Nat}

/-- What follows a value does not continue a number. -/
def Ends (tail : CodePoints) : Prop :=
  Delimits tail.leading.1

/-- A value is found again in its text, whatever follows that does not continue a number. -/
def ReadsBack (limits : Limits) (depth : Nat) (value : Value) : Prop :=
  ∀ fuel tail, 2 * (write value).length ≤ fuel → Ends tail →
    readValue limits fuel depth (CodePoints.ofChars (write value) ++ tail) = .ok (value.node, tail)

def Printable (cs : List Char) : Prop :=
  ∀ c ∈ cs, Text.IsPrintableAscii c

namespace Printable

theorem append {front back : List Char} (left : Printable front) (right : Printable back) :
    Printable (front ++ back) :=
  List.forall_mem_append.mpr ⟨left, right⟩

theorem cons {c : Char} {cs : List Char} (first : Text.IsPrintableAscii c) (rest : Printable cs) :
    Printable (c :: cs) :=
  List.forall_mem_cons.mpr ⟨first, rest⟩

theorem digits {cs : List Char} (all : AllDigits cs) : Printable cs := by
  intro c member
  obtain ⟨low, high⟩ := isAsciiDigit_range (all c member)
  exact ⟨by omega, by omega⟩

theorem numeral {n : Numeral} (formed : n.WellFormed) : Printable n.text := by
  refine append (digits formed.whole) (append ?_ ?_)
  · unfold Numeral.fractionText
    split
    · exact nofun
    · exact cons (by decide) (digits formed.fraction)
  · unfold Numeral.exponentText
    cases n.exponent with
    | none => exact nofun
    | some e =>
        obtain ⟨padded, written, all, -⟩ := Numeral.exists_exponentText e
        have sign : Text.IsPrintableAscii (if e < 0 then '-' else '+') := by
          split <;> decide
        rw [Option.map_some, Option.getD_some, written]
        exact cons (by decide) (cons sign (digits all))

theorem signed (negative : Bool) {cs : List Char} (printable : Printable cs) :
    Printable (if negative then '-' :: cs else cs) := by
  cases negative with
  | true => exact cons (by decide) printable
  | false => exact printable

theorem items {items : List Value} (each : ∀ item ∈ items, Printable (write item)) :
    Printable (writeItems items) := by
  induction items with
  | nil => exact nofun
  | cons item rest ih =>
      obtain ⟨first, others⟩ := List.forall_mem_cons.mp each
      cases rest with
      | nil => exact first
      | cons next rest => exact append first (cons (by decide) (cons (by decide) (ih others)))

theorem entries {entries : Dictionary Value} (each : ∀ entry ∈ entries, Printable (write entry.2)) :
    Printable (writeEntries entries) := by
  induction entries with
  | nil => exact nofun
  | cons entry rest ih =>
      obtain ⟨first, others⟩ := List.forall_mem_cons.mp each
      have key := writeString_isPrintable entry.1
      cases rest with
      | nil => exact append key (cons (by decide) (cons (by decide) first))
      | cons next rest =>
          exact append key (cons (by decide) (cons (by decide)
            (append first (cons (by decide) (cons (by decide) (ih others))))))

end Printable

end Json

end ClientWiring
