import ClientWiring.Proofs.Files.Walk
set_option autoImplicit false

/-! Which paths can lead to a file at all. A path that passes the place where it ends leads to none,
since what it passes are directories; for any other path that can be looked up there is a tree. -/

namespace ClientWiring.FileTree

open Route

variable {tree : FileTree} {place : List String}

/-! ### What is passed -/

/-- What a path is like that starts at a directory and leads to a file in some tree: it can be looked
up, and it ends at none of the directories that it goes through. -/
structure Openable (path : String) : Prop where
  plain : '\x00' ∉ path.toList
  short : (joined [] path).utf8ByteSize < pathLimit
  names : ∀ part ∈ parts path, part.utf8ByteSize ≤ maxName
  fresh : ∀ earlier part later, parts path = earlier ++ part :: later →
    along earlier ≠ along (parts path)
  /-- It does not end above the directory where it starts. -/
  settles : (along (parts path)).down = [] → (along (parts path)).up = 0

theorem utf8ByteSize_intercalate_le {names : List String} (filled : names ≠ [])
    (before : List String) :
    ("/".intercalate names).utf8ByteSize ≤ ("/".intercalate (before ++ names)).utf8ByteSize := by
  induction before with
  | nil => rfl
  | cons first before ih =>
      rw [List.cons_append, String.intercalate_cons_of_ne_nil (by simp [filled]),
        String.utf8ByteSize_append, String.utf8ByteSize_append]
      omega

theorem short_of_append {before names : List String}
    (short : (asText (before ++ names)).utf8ByteSize < pathLimit) :
    (asText names).utf8ByteSize < pathLimit := by
  cases names with
  | nil => decide
  | cons name names =>
      have longer := utf8ByteSize_intercalate_le (List.cons_ne_nil name names) before
      rw [asText, if_neg (by simp)] at short ⊢
      exact Nat.lt_of_le_of_lt longer short

section Opened

variable {directory : List String} {path : String} {content : List UInt8}

/-- What a walk goes through are directories, and no files. -/
theorem ne_resolve_of_lookup (leads : tree.lookup directory path = .entry place (.file content))
    {earlier later : List String} {part : String}
    (split : tree.steps directory path = earlier ++ part :: later) : place ≠ resolve earlier := by
  obtain ⟨-, passes, -, stands⟩ := lookup_eq_entry_iff.mp leads
  intro same
  have through := (passes earlier part later split).directory
  rw [← same, stands] at through
  cases through

theorem ne_above_of_lookup (relative : path.startsWith "/" = false)
    (leads : tree.lookup directory path = .entry place (.file content))
    {above : List String} (is_above : above <+: resolve (tree.home ++ directory))
    (apart : above ≠ resolve (tree.home ++ directory)) : place ≠ above := by
  obtain ⟨earlier, later, split, reached⟩ := exists_resolve_of_prefix is_above
  cases later with
  | nil =>
      rw [List.append_nil] at split
      rw [split] at apart
      exact absurd reached.symm apart
  | cons part later =>
      rw [← reached]
      apply ne_resolve_of_lookup leads
      rw [steps_relative relative, ← List.append_assoc, split, List.append_assoc]
      rfl

theorem openable_of_lookup (relative : path.startsWith "/" = false)
    (leads : tree.lookup directory path = .entry place (.file content)) : Openable path := by
  obtain ⟨⟨plain, short⟩, passes, ends, stands⟩ := lookup_eq_entry_iff.mp leads
  rw [resolve_steps relative] at ends
  have inside {earlier later : List String} {part : String}
      (split : parts path = earlier ++ part :: later) :
      tree.steps directory path = tree.home ++ directory ++ earlier ++ part :: later := by
    rw [steps_relative relative, split, ← List.append_assoc, ← List.append_assoc]
  rw [joined_relative relative] at short
  refine ⟨plain, ?_, ?_, ?_, ?_⟩
  · rw [joined_relative relative, List.nil_append]
    exact short_of_append short
  · intro part member
    by_cases up : part = ".."
    · subst up
      decide
    · obtain ⟨earlier, later, split⟩ := List.append_of_mem member
      exact (passes (tree.home ++ directory ++ earlier) part later (inside split)).short up
  · intro earlier part later split same
    have through : place ≠ resolve (tree.home ++ directory ++ earlier) :=
      ne_resolve_of_lookup leads (inside split)
    rw [resolve_append, same] at through
    exact through ends
  · intro bottom
    rw [endFrom, bottom, List.append_nil] at ends
    by_contra left
    have above : place ≠ (resolve (tree.home ++ directory)).rdrop (along (parts path)).up := by
      by_cases top : resolve (tree.home ++ directory) = []
      · -- the root is a directory, whatever the tree
        rw [top, List.rdrop_nil]
        intro root
        rw [root] at stands
        cases stands
      · apply ne_above_of_lookup relative leads (List.take_prefix _ _)
        intro whole
        have shorter := congrArg List.length whole
        have filled := List.length_pos_iff.mpr top
        rw [List.length_take] at shorter
        omega
    exact above ends

end Opened

/-! ### A tree for a path -/

def treeAlong (home way : List String) : FileTree :=
  ⟨(resolve way, .file []) :: way.inits.map fun earlier => (resolve earlier, .directory), home⟩

theorem entry?_of_ne_nil (named : place ≠ []) : tree.entry? place = tree.entries.lookup place := by
  rw [FileTree.entry?, List.isEmpty_eq_false_iff.mpr named, if_neg Bool.false_ne_true]

theorem lookup_map_directory {ways : List (List String)} {way : List String} (member : way ∈ ways) :
    (ways.map fun way => (resolve way, FileEntry.directory)).lookup (resolve way) =
      some .directory := by
  induction ways with
  | nil => cases member
  | cons first rest ih =>
      rw [List.map_cons, List.lookup_cons]
      by_cases same : resolve way = resolve first
      · rw [beq_iff_eq.mpr same]
      · have later : way ∈ rest :=
          (List.mem_cons.mp member).resolve_left fun equal => same (congrArg resolve equal)
        rw [beq_eq_false_iff_ne.mpr same]
        exact ih later

theorem entry?_treeAlong_end (home : List String) {way : List String} (named : resolve way ≠ []) :
    FileTree.entry? (treeAlong home way) (resolve way) = some (.file []) := by
  rw [entry?_of_ne_nil named, treeAlong, List.lookup_cons, BEq.rfl]

theorem entry?_treeAlong_through (home : List String) {way earlier : List String}
    (through : earlier <+: way) (apart : resolve earlier ≠ resolve way) :
    FileTree.entry? (treeAlong home way) (resolve earlier) = some .directory := by
  by_cases top : resolve earlier = []
  · rw [top]
    rfl
  · rw [entry?_of_ne_nil top, treeAlong, List.lookup_cons, beq_eq_false_iff_ne.mpr apart]
    exact lookup_map_directory ((List.mem_inits _ _).mpr through)

section Home

variable {path name : String}

/-- Directories of one name within each other, one more than a route leaves. -/
def homeOf (route : Route) (name : String) : List String :=
  List.replicate (route.up + 1) name

theorem exists_name_off (route : Route) :
    ∃ name, name ≠ ".." ∧ name.utf8ByteSize ≤ maxName ∧ route.down.head? ≠ some name := by
  by_cases taken : route.down.head? = some "a"
  · refine ⟨"b", by decide, by decide, ?_⟩
    rw [taken]
    decide
  · exact ⟨"a", by decide, by decide, taken⟩

theorem resolve_replicate (plain : name ≠ "..") (copies : Nat) :
    resolve (List.replicate copies name) = List.replicate copies name := by
  apply resolve_names
  intro member
  exact plain (List.eq_of_mem_replicate member).symm

theorem resolve_homeOf_append (plain : name ≠ "..") {route : Route} {earlier : List String}
    (kept : (along earlier).up ≤ route.up) :
    resolve (homeOf route name ++ earlier) =
      name :: (List.replicate (route.up - (along earlier).up) name ++ (along earlier).down) := by
  have left : (homeOf route name).rdrop (along earlier).up =
      List.replicate (route.up - (along earlier).up + 1) name := by
    rw [homeOf, List.rdrop, List.take_replicate, List.length_replicate]
    congr 1
    omega
  rw [resolve_append, homeOf, resolve_replicate plain, ← homeOf, endFrom, left,
    List.replicate_succ, List.cons_append]

/-- Before the path begins, the way to it leads through directories of its home. -/
theorem homeOf_append_split {route : Route} {names earlier later : List String} {part : String}
    (split : homeOf route name ++ names = earlier ++ part :: later) :
    (∃ copies ≤ route.up, earlier = List.replicate copies name ∧ part = name) ∨
      ∃ inside, earlier = homeOf route name ++ inside ∧ names = inside ++ part :: later := by
  obtain ⟨inside, reached, rest⟩ | ⟨left, reached, rest⟩ := List.append_eq_append_iff.mp split
  · exact .inr ⟨inside, reached, rest⟩
  · cases left with
    | nil =>
        rw [List.append_nil] at reached
        exact .inr ⟨[], by rw [reached, List.append_nil], rest.symm⟩
    | cons first left =>
        cases rest
        have copies := List.append_eq_replicate_iff.mp reached.symm
        refine .inl ⟨earlier.length, ?_, copies.2.1, ?_⟩
        · have length := copies.1
          rw [List.length_cons] at length
          omega
        · exact List.eq_of_mem_replicate (by rw [← copies.2.2]; exact List.mem_cons_self)

theorem resolve_homeOf_parts (plain : name ≠ "..") (names : List String) :
    resolve (homeOf (along names) name ++ names) = name :: (along names).down := by
  rw [resolve_homeOf_append plain (Nat.le_refl _), Nat.sub_self]
  rfl

theorem replicate_append_ne {down inside : List String} {copies : Nat}
    (off : down.head? ≠ some name) (distinct : copies = 0 → inside ≠ down) :
    List.replicate copies name ++ inside ≠ down := by
  intro same
  cases copies with
  | zero => exact distinct rfl same
  | succ copies =>
      apply off
      rw [← same]
      rfl

/-- Where the name of the home does not follow, the way ends nowhere that it has led through. -/
theorem resolve_ne_end (openable : Openable path) (plain : name ≠ "..")
    (off : (along (parts path)).down.head? ≠ some name) {earlier later : List String}
    {part : String}
    (split : homeOf (along (parts path)) name ++ parts path = earlier ++ part :: later) :
    resolve earlier ≠ resolve (homeOf (along (parts path)) name ++ parts path) := by
  rw [resolve_homeOf_parts plain]
  cases homeOf_append_split split with
  | inl before =>
      -- only the name of the home is here, and the end has it once, before any other
      obtain ⟨copies, most, rfl, -⟩ := before
      rw [resolve_replicate plain]
      cases copies with
      | zero => exact (List.cons_ne_nil _ _).symm
      | succ copies =>
          intro same
          have names : List.replicate copies name ++ [] = (along (parts path)).down := by
            rw [List.append_nil]
            exact (List.cons.inj same).2
          refine replicate_append_ne off ?_ names
          intro none bottom
          have level := openable.settles bottom.symm
          omega
  | inr within =>
      -- equal places have equal routes, since the name of the home counts what has been left
      obtain ⟨inside, rfl, rest⟩ := within
      have kept := up_le_of_split rest
      rw [resolve_homeOf_append plain kept]
      intro same
      refine replicate_append_ne off ?_ (List.cons.inj same).2
      intro level down
      apply openable.fresh inside part later rest
      apply Route.ext
      · omega
      · exact down

/-- The tree for a path starts in the home, one directory deeper than the path climbs. -/
def treeFor (path name : String) : FileTree :=
  treeAlong (homeOf (along (parts path)) name)
    (homeOf (along (parts path)) name ++ parts path)

theorem lookup_treeFor (openable : Openable path) (relative : path.startsWith "/" = false)
    (plain : name ≠ "..") (short : name.utf8ByteSize ≤ maxName)
    (off : (along (parts path)).down.head? ≠ some name) :
    (treeFor path name).lookup [] path = .entry (name :: (along (parts path)).down) (.file []) := by
  have ends := resolve_homeOf_parts plain (parts path)
  have steps : (treeFor path name).steps [] path =
      homeOf (along (parts path)) name ++ parts path := steps_relative relative _ []
  rw [lookup_eq_entry_iff, steps]
  refine ⟨⟨openable.plain, openable.short⟩, ?_, ends.symm, ?_⟩
  · intro earlier part later split
    have through : earlier <+: homeOf (along (parts path)) name ++ parts path :=
      ⟨part :: later, split.symm⟩
    refine ⟨entry?_treeAlong_through _ through (resolve_ne_end openable plain off split), ?_⟩
    intro _
    cases homeOf_append_split split with
    | inl before =>
        obtain ⟨-, -, -, rfl⟩ := before
        exact short
    | inr within =>
        obtain ⟨inside, -, rest⟩ := within
        apply openable.names
        rw [rest]
        exact List.mem_append_right _ List.mem_cons_self
  · rw [← ends]
    exact entry?_treeAlong_end _ (by rw [ends]; exact List.cons_ne_nil _ _)

theorem not_below_homeOf {route : Route} (off : route.down.head? ≠ some name)
    (strays : ¬ route.Descends) : ¬ Below (homeOf route name) (name :: route.down) := by
  intro below
  obtain ⟨⟨rest, whole⟩, apart⟩ := below
  rw [homeOf, List.replicate_succ, List.cons_append, List.cons.injEq] at whole
  refine replicate_append_ne off ?_ whole.2
  intro level same
  have bottom : route.down = [] := by
    by_contra filled
    exact strays ⟨level, filled⟩
  rw [homeOf, level, bottom] at apart
  exact apart rfl

end Home

/-- There is a tree for each path that has what `Openable` asks for. -/
theorem openable_iff {path : String} (relative : path.startsWith "/" = false) :
    Openable path ↔ ∃ (tree : FileTree) (directory : List String) (content : List UInt8),
      tree.HasFile directory path content := by
  constructor
  · intro openable
    obtain ⟨name, plain, short, off⟩ := exists_name_off (along (parts path))
    exact ⟨_, _, _, _, lookup_treeFor openable relative plain short off⟩
  · intro has
    obtain ⟨tree, directory, content, place, leads⟩ := has
    exact openable_of_lookup relative leads

end ClientWiring.FileTree
