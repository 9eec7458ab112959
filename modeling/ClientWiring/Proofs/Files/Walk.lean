import ClientWiring.Proofs.Files.Location
import Mathlib.Data.List.DropRight
import Mathlib.Data.List.Infix
set_option autoImplicit false

/-! Where a path leads. A tree has no links, so the place at the end of a path is known from its
parts alone: from the directory where it starts it goes up by some directories, and from there down
by names. What stands in the tree decides only whether the path can be followed. -/

namespace ClientWiring.FileTree

/-! ### Places -/

def onward (place : List String) (part : String) : List String :=
  if part = ".." then place.dropLast else place ++ [part]

/-- The place that names and double points lead to from the root. -/
def resolve (parts : List String) : List String :=
  parts.foldl onward []

def Below (directory place : List String) : Prop :=
  directory <+: place ∧ directory ≠ place

instance (directory place : List String) : Decidable (Below directory place) :=
  inferInstanceAs (Decidable (_ ∧ _))

theorem onward_up (place : List String) : onward place ".." = place.dropLast :=
  if_pos rfl

theorem onward_name {part : String} (name : part ≠ "..") (place : List String) :
    onward place part = place ++ [part] :=
  if_neg name

theorem resolve_concat (parts : List String) (part : String) :
    resolve (parts ++ [part]) = onward (resolve parts) part := by
  rw [resolve, List.foldl_append]
  rfl

theorem resolve_names {parts : List String} (names : ".." ∉ parts) : resolve parts = parts := by
  induction parts using List.reverseRecOn with
  | nil => rfl
  | append_singleton parts part ih =>
      rw [List.mem_append, not_or, List.mem_singleton] at names
      rw [resolve_concat, ih names.1, onward_name (Ne.symm names.2)]

/-- A place is reached only through the places above it. -/
theorem exists_resolve_of_prefix {parts above : List String} (is_above : above <+: resolve parts) :
    ∃ earlier later, parts = earlier ++ later ∧ resolve earlier = above := by
  -- one part adds or takes away one name, so the last one leaves nothing out
  induction parts using List.reverseRecOn with
  | nil => exact ⟨[], [], rfl, (List.prefix_nil.mp is_above).symm⟩
  | append_singleton parts part ih =>
      have before (inside : above <+: resolve parts) :
          ∃ earlier later, parts ++ [part] = earlier ++ later ∧ resolve earlier = above := by
        obtain ⟨earlier, later, split, reached⟩ := ih inside
        exact ⟨earlier, later ++ [part], by rw [split, List.append_assoc], reached⟩
      rw [resolve_concat] at is_above
      by_cases up : part = ".."
      · subst up
        rw [onward_up] at is_above
        exact before (is_above.trans (List.dropLast_prefix _))
      · rw [onward_name up, List.prefix_concat_iff] at is_above
        cases is_above with
        | inl whole =>
            refine ⟨parts ++ [part], [], (List.append_nil _).symm, ?_⟩
            rw [resolve_concat, onward_name up, whole]
        | inr inside => exact before inside

/-! ### Walks -/

structure Passes (tree : FileTree) (place : List String) (part : String) : Prop where
  directory : tree.entry? place = some .directory
  short : part ≠ ".." → part.utf8ByteSize ≤ maxName

variable {tree : FileTree} {place found : List String} {entry : FileEntry}

theorem walk_nil_eq_entry_iff :
    tree.walk place [] = .entry found entry ↔ found = place ∧ tree.entry? place = some entry := by
  rw [walk]
  cases tree.entry? place with
  | none => simp
  | some known => simp [eq_comm]

theorem walk_of_passes {part : String} (passes : tree.Passes place part) (rest : List String) :
    tree.walk place (part :: rest) = tree.walk (onward place part) rest := by
  rw [walk.eq_def]
  simp only [passes.directory]
  by_cases up : part = ".."
  · subst up
    rw [onward_up, if_pos rfl]
  · have short : ¬ maxName < part.utf8ByteSize := Nat.not_lt.mpr (passes.short up)
    simp only [if_neg up, if_neg short, onward_name up]

theorem passes_of_walk {part : String} {rest : List String}
    (leads : tree.walk place (part :: rest) = .entry found entry) : tree.Passes place part := by
  rw [walk.eq_def] at leads
  cases known : tree.entry? place with
  | none =>
      simp only [known] at leads
      cases leads
  | some there =>
      simp only [known] at leads
      cases there with
      | file content => cases leads
      | directory =>
          refine ⟨known, ?_⟩
          intro name
          by_contra long
          simp only [if_neg name, if_pos (Nat.not_le.mp long)] at leads
          cases leads

/-- A walk is successful exactly if each part can be followed from the place where the parts before
it lead. -/
theorem walk_eq_entry_iff {parts : List String} :
    tree.walk place parts = .entry found entry ↔
      (∀ earlier part later, parts = earlier ++ part :: later →
        tree.Passes (earlier.foldl onward place) part) ∧
      found = parts.foldl onward place ∧ tree.entry? found = some entry := by
  induction parts generalizing place with
  | nil =>
      rw [walk_nil_eq_entry_iff]
      constructor
      · intro here
        obtain ⟨rfl, stands⟩ := here
        refine ⟨?_, rfl, stands⟩
        intro earlier part later split
        cases (List.nil_eq_append_iff.mp split).2
      · intro here
        obtain ⟨-, rfl, stands⟩ := here
        exact ⟨rfl, stands⟩
  | cons part rest ih =>
      constructor
      · intro leads
        have passes := passes_of_walk leads
        rw [walk_of_passes passes, ih] at leads
        refine ⟨?_, leads.2⟩
        intro earlier next later split
        cases earlier with
        | nil =>
            cases split
            exact passes
        | cons first earlier =>
            cases split
            exact leads.1 earlier next later rfl
      · intro follows
        obtain ⟨passes, ends⟩ := follows
        have here : tree.Passes place part := passes [] part rest rfl
        rw [walk_of_passes here, ih]
        refine ⟨?_, ends⟩
        intro earlier next later split
        exact passes (part :: earlier) next later (congrArg (part :: ·) split)

/-! ### Routes -/

/-- Where a path leads from the directory in which it starts: up by some directories, and from there
down by names. -/
@[ext]
structure Route where
  up : Nat
  down : List String
  deriving DecidableEq, Repr

namespace Route

def follow (route : Route) (part : String) : Route :=
  if part = ".." then
    if route.down = [] then ⟨route.up + 1, []⟩ else ⟨route.up, route.down.dropLast⟩
  else ⟨route.up, route.down ++ [part]⟩

def along (parts : List String) : Route :=
  parts.foldl follow ⟨0, []⟩

def endFrom (route : Route) (directory : List String) : List String :=
  directory.rdrop route.up ++ route.down

/-- A route that never leaves the directory in which it starts. -/
def Descends (route : Route) : Prop :=
  route.up = 0 ∧ route.down ≠ []

instance (route : Route) : Decidable route.Descends :=
  inferInstanceAs (Decidable (_ ∧ _))

theorem follow_up_of_nil {route : Route} (top : route.down = []) :
    route.follow ".." = ⟨route.up + 1, []⟩ := by
  rw [follow, if_pos rfl, if_pos top]

theorem follow_up_of_ne_nil {route : Route} (inside : route.down ≠ []) :
    route.follow ".." = ⟨route.up, route.down.dropLast⟩ := by
  rw [follow, if_pos rfl, if_neg inside]

theorem follow_name {part : String} (name : part ≠ "..") (route : Route) :
    route.follow part = ⟨route.up, route.down ++ [part]⟩ :=
  if_neg name

theorem dropLast_rdrop (directory : List String) (up : Nat) :
    (directory.rdrop up).dropLast = directory.rdrop (up + 1) := by
  rw [List.rdrop, List.rdrop, List.dropLast_eq_take, List.length_take, List.take_take]
  congr 1
  omega

theorem endFrom_follow (route : Route) (part : String) (directory : List String) :
    (route.follow part).endFrom directory = onward (route.endFrom directory) part := by
  by_cases up : part = ".."
  · subst up
    rw [onward_up]
    by_cases top : route.down = []
    · rw [follow_up_of_nil top, endFrom, endFrom, top, List.append_nil, List.append_nil,
        dropLast_rdrop]
    · rw [follow_up_of_ne_nil top, endFrom, endFrom, List.dropLast_append_of_ne_nil top]
  · rw [follow_name up, onward_name up, endFrom, endFrom, List.append_assoc]

theorem along_concat (parts : List String) (part : String) :
    along (parts ++ [part]) = (along parts).follow part := by
  rw [along, List.foldl_append]
  rfl

theorem foldl_onward (parts directory : List String) :
    parts.foldl onward directory = (along parts).endFrom directory := by
  induction parts using List.reverseRecOn with
  | nil => simp [along, endFrom]
  | append_singleton parts part ih =>
      rw [List.foldl_append, ih, along_concat, endFrom_follow]
      rfl

theorem resolve_append (directory parts : List String) :
    resolve (directory ++ parts) = (along parts).endFrom (resolve directory) := by
  rw [resolve, List.foldl_append]
  exact foldl_onward parts (resolve directory)

/-- What a route has left stays left. -/
theorem up_le_of_split {parts earlier later : List String} (split : parts = earlier ++ later) :
    (along earlier).up ≤ (along parts).up := by
  subst split
  induction later using List.reverseRecOn with
  | nil => rw [List.append_nil]
  | append_singleton later part ih =>
      rw [← List.append_assoc, along_concat, follow]
      split
      · split
        · exact Nat.le_succ_of_le ih
        · exact ih
      · exact ih

theorem along_names {parts : List String} (names : ".." ∉ parts) : along parts = ⟨0, parts⟩ := by
  induction parts using List.reverseRecOn with
  | nil => rfl
  | append_singleton parts part ih =>
      rw [List.mem_append, not_or, List.mem_singleton] at names
      rw [along_concat, ih names.1, follow_name (Ne.symm names.2)]

/-- A route ends below its directory exactly if it goes down again through the names that it left,
and further. -/
theorem below_endFrom_iff (route : Route) (directory : List String) :
    Below directory (route.endFrom directory) ↔
      Below (directory.rtake route.up) route.down := by
  have whole : directory.rdrop route.up ++ directory.rtake route.up = directory :=
    List.take_append_drop _ _
  have same : Below (directory.rdrop route.up ++ directory.rtake route.up)
      (directory.rdrop route.up ++ route.down) ↔
      Below (directory.rtake route.up) route.down := by
    rw [Below, Below, List.prefix_append_right_inj, ne_eq, List.append_cancel_left_eq]
  rw [whole] at same
  exact same

theorem Descends.below {route : Route} (descends : route.Descends) (directory : List String) :
    Below directory (route.endFrom directory) := by
  rw [below_endFrom_iff, descends.1, List.rtake_zero]
  exact ⟨List.nil_prefix, Ne.symm descends.2⟩

end Route

/-! ### Looking up -/

section Lookup

variable {directory : List String} {path : String}

theorem followed_of_lookup (leads : tree.lookup directory path = .entry place entry) :
    '\x00' ∉ path.toList ∧ (joined directory path).utf8ByteSize < pathLimit := by
  rw [lookup] at leads
  by_cases barred : path.toList.contains '\x00' = true
  · rw [if_pos barred] at leads
    cases leads
  · rw [if_neg barred] at leads
    by_cases long : pathLimit ≤ (joined directory path).utf8ByteSize
    · rw [if_pos long] at leads
      cases leads
    · rw [List.contains_iff_mem] at barred
      exact ⟨barred, Nat.not_le.mp long⟩

theorem lookup_eq_entry_iff :
    tree.lookup directory path = .entry place entry ↔
      ('\x00' ∉ path.toList ∧ (joined directory path).utf8ByteSize < pathLimit) ∧
      (∀ earlier part later, tree.steps directory path = earlier ++ part :: later →
        tree.Passes (resolve earlier) part) ∧
      place = resolve (tree.steps directory path) ∧ tree.entry? place = some entry := by
  rw [resolve]
  constructor
  · intro leads
    have followed := followed_of_lookup leads
    rw [lookup_eq_walk followed.1 followed.2, walk_eq_entry_iff] at leads
    exact ⟨followed, leads⟩
  · intro ends
    obtain ⟨⟨plain, short⟩, ends⟩ := ends
    rw [lookup_eq_walk plain short, walk_eq_entry_iff]
    exact ends

theorem resolve_steps (relative : path.startsWith "/" = false) (tree : FileTree)
    (directory : List String) :
    resolve (tree.steps directory path) =
      (Route.along (parts path)).endFrom (resolve (tree.home ++ directory)) := by
  rw [steps_relative relative, ← List.append_assoc, Route.resolve_append]

end Lookup

end ClientWiring.FileTree
