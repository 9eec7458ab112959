import ClientWiring.Class.Registry
import ClientWiring.Proofs.Text.Split
set_option autoImplicit false

/-! The texts of configured class names: the parts between points, the colon behind a module, and
names of modules that are relative to another one. -/

namespace ClientWiring

namespace Library

theorem parts_ne_nil (name : String) : parts name ≠ [] := by
  simp [parts]

theorem intercalate_parts (name : String) : ".".intercalate (parts name) = name := by
  apply String.toList_inj.mp
  have same : String.toList ∘ String.ofList = id := funext fun _ => String.toList_ofList
  rw [String.toList_intercalate, parts, List.map_map, same, List.map_id]
  exact List.intercalate_splitOn '.'

theorem parts_append (first second : String) :
    parts (first ++ "." ++ second) = parts first ++ parts second := by
  have chars : (first ++ "." ++ second).toList = first.toList ++ '.' :: second.toList := by simp
  rw [parts, chars, List.splitOn_append_cons_self, List.map_append]
  rfl

theorem parts_intercalate {path : List String} (filled : path ≠ [])
    (pointless : ∀ part ∈ path, '.' ∉ part.toList) : parts (".".intercalate path) = path := by
  have chars : (".".intercalate path).toList = ['.'].intercalate (path.map String.toList) :=
    String.toList_intercalate
  have apart : ∀ chars ∈ path.map String.toList, '.' ∉ chars := by simpa using pointless
  have split := List.splitOn_intercalate '.' apart (by simpa using filled)
  have same : String.ofList ∘ String.toList = id := funext fun _ => String.ofList_toList
  rw [parts, chars, split, List.map_map, same, List.map_id]

theorem mem_intercalate {path : List String} {c : Char}
    (member : c ∈ (".".intercalate path).toList) : c = '.' ∨ ∃ part ∈ path, c ∈ part.toList := by
  induction path with
  | nil => simp at member
  | cons part rest ih =>
      by_cases last : rest = []
      · subst last
        rw [String.intercalate_singleton] at member
        exact .inr ⟨part, List.mem_cons_self, member⟩
      · rw [String.intercalate_cons_of_ne_nil last, String.toList_append, String.toList_append,
          List.mem_append, List.mem_append] at member
        rcases member with (here | point) | later
        · exact .inr ⟨part, List.mem_cons_self, here⟩
        · exact .inl (List.mem_singleton.mp point)
        · rcases ih later with point | ⟨other, among, inside⟩
          · exact .inl point
          · exact .inr ⟨other, List.mem_cons_of_mem part among, inside⟩

/-! ### Names of modules -/

def IsRelative (name : String) : Prop :=
  name.toList.head? = some '.'

theorem isRelative_iff_startsWith (name : String) :
    IsRelative name ↔ name.startsWith "." = true := by
  rw [String.startsWith_string_iff, IsRelative]
  cases name.toList with
  | nil => simp
  | cons c rest => simp [eq_comm]

theorem load_of_isRelative (library : Library) {name : String} (relative : IsRelative name) :
    library.load name = .error (.relativeName name) := by
  have filled : name.isEmpty = false := by
    rw [← Bool.not_eq_true, String.isEmpty_iff]
    rintro rfl
    cases relative
  rw [load, filled, (isRelative_iff_startsWith name).mp relative]
  rfl

theorem mem_parts_of_isRelative {name : String} (relative : IsRelative name) :
    "" ∈ parts name := by
  cases chars : name.toList with
  | nil =>
      rw [IsRelative, chars] at relative
      cases relative
  | cons c rest =>
      rw [IsRelative, chars] at relative
      cases relative
      rw [parts, chars, List.splitOn_cons_eq_if_modifyHead, if_pos (beq_self_eq_true '.')]
      exact List.mem_cons_self

theorem not_isRelative_of_split {name : String} {before after : List String}
    (filled : "" ∉ parts name) (split : parts name = before ++ after) (nonempty : before ≠ []) :
    ¬ IsRelative (".".intercalate before) := by
  intro relative
  apply filled
  apply mem_parts_of_isRelative
  cases after with
  | nil =>
      rw [List.append_nil] at split
      rwa [← split, intercalate_parts] at relative
  | cons part rest =>
      have whole := intercalate_parts name
      rw [split, String.intercalate_append_of_ne_nil nonempty (List.cons_ne_nil part rest)] at whole
      rw [IsRelative, ← whole, String.append_assoc, String.toList_append, List.head?_append, relative]
      rfl

end Library

namespace Registry

/-! ### The colon behind a module -/

theorem splitColon?_of_marked {module : String} (first : ':' ∉ module.toList) (path : String) :
    splitColon? (module ++ ":" ++ path) = some (module, path) := by
  have inside : ∀ c ∈ module.toList, (c != ':') = true := by
    intro c member
    rw [bne_iff_ne]
    rintro rfl
    exact first member
  have chars : (module ++ ":" ++ path).toList = module.toList ++ ':' :: path.toList := by simp
  obtain ⟨before, behind⟩ := Text.takeWhile_append_mark inside (bne_self_eq_false ':') path.toList
  rw [splitColon?, chars, before, behind]
  simp

theorem splitColon?_of_unmarked {name : String} (unmarked : ':' ∉ name.toList) :
    splitColon? name = none := by
  have all : ∀ c ∈ name.toList, (c != ':') = true := by
    intro c member
    rw [bne_iff_ne]
    rintro rfl
    exact unmarked member
  have nothing : name.toList.dropWhile (· != ':') = [] := List.dropWhile_eq_nil_iff.mpr all
  rw [splitColon?, nothing]

theorem exists_of_marked {name : String} (marked : ':' ∈ name.toList) :
    ∃ module path : String, name = module ++ ":" ++ path ∧ ':' ∉ module.toList := by
  obtain ⟨before, behind, chars, first⟩ := List.eq_append_cons_of_mem marked
  refine ⟨String.ofList before, String.ofList behind, ?_, ?_⟩
  · apply String.toList_inj.mp
    simp [chars]
  · rwa [String.toList_ofList]

end Registry

end ClientWiring
