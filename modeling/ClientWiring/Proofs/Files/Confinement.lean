import ClientWiring.Proofs.Files.ClassPath
import ClientWiring.Proofs.Files.Openable
set_option autoImplicit false

/-! Which files the resources of the class path can open. A resource is followed from a root or from
a directory of a package, and a double point in it leads above this directory: nothing holds it
back. So what is opened is on the class path in all surroundings only for a resource that never
leads above where it starts. -/

namespace ClientWiring

open FileTree (Below Openable Route resolve)

namespace Surroundings

variable {around : Surroundings} {anchor : Option String} {resource : String}
  {place directory : List String} {content : List UInt8}

/-! ### The file that is opened -/

/-- The file at a place is the one that is opened for a resource: the one below the first root that
has it, or else the one in the package of the module that asks. -/
inductive Opens (around : Surroundings) (anchor : Option String) (resource : String)
    (place : List String) (content : List UInt8) : Prop
  | root {earlier later : List (List String)} {directory : List String}
      (order : around.roots = earlier ++ directory :: later)
      (lacking : ∀ other ∈ earlier, around.tree.LacksFile other resource)
      (leads : around.tree.lookup directory resource = .entry place (.file content)) :
      Opens around anchor resource place content
  | package {directory : List String}
      (rootless : Sought around.tree resource around.roots (.ok none))
      (beside : around.PackageDirectory anchor resource directory)
      (leads : around.tree.lookup directory resource = .entry place (.file content)) :
      Opens around anchor resource place content

theorem resourceAt_ok_iff :
    around.ResourceAt anchor resource (.ok content) ↔
      ∃ place, around.Opens anchor resource place content := by
  constructor
  · intro comes
    cases comes with
    | root found =>
        cases found with
        | found order lacking has =>
            obtain ⟨place, leads⟩ := has
            exact ⟨place, .root order lacking leads⟩
    | package rootless beside has =>
        obtain ⟨place, leads⟩ := has
        exact ⟨place, .package rootless beside leads⟩
  · intro opened
    obtain ⟨place, opens⟩ := opened
    cases opens with
    | root order lacking leads => exact .root (.found order lacking ⟨place, leads⟩)
    | package rootless beside leads => exact .package rootless beside ⟨place, leads⟩

theorem not_lacks_of_lookup
    (leads : around.tree.lookup directory resource = .entry place (.file content)) :
    ¬ around.tree.LacksFile directory resource :=
  fun lacks => lacks.2 content ⟨place, leads⟩

theorem first_of_rest {α : Type} {property : α → Prop} {between after after' : List α}
    {one other : α} (rest : one :: after = between ++ other :: after') (fails : ¬ property one)
    (held : ∀ item ∈ between, property item) : one = other := by
  cases between with
  | nil => exact (List.cons.inj rest).1
  | cons first between =>
      have same : one = first := (List.cons.inj rest).1
      refine absurd (held one ?_) fails
      rw [same]
      exact List.mem_cons_self

theorem first_unique {α : Type} {property : α → Prop} {before after before' after' : List α}
    {one other : α} (same : before ++ one :: after = before' ++ other :: after')
    (held : ∀ item ∈ before, property item) (fails : ¬ property one)
    (held' : ∀ item ∈ before', property item) (fails' : ¬ property other) : one = other := by
  cases List.append_eq_append_iff.mp same with
  | inl longer =>
      obtain ⟨between, rfl, rest⟩ := longer
      exact first_of_rest rest fails fun item member =>
        held' item (List.mem_append_right _ member)
  | inr shorter =>
      obtain ⟨between, rfl, rest⟩ := shorter
      exact (first_of_rest rest fails' fun item member =>
        held item (List.mem_append_right _ member)).symm

theorem packageDirectory_unique {other : List String}
    (one : around.PackageDirectory anchor resource directory)
    (two : around.PackageDirectory anchor resource other) : directory = other := by
  have same := (beside_of_packageDirectory one).symm.trans (beside_of_packageDirectory two)
  cases same
  rfl

theorem Opens.not_rootless {earlier later : List (List String)}
    (order : around.roots = earlier ++ directory :: later)
    (leads : around.tree.lookup directory resource = .entry place (.file content)) :
    ¬ Sought around.tree resource around.roots (.ok none) := by
  intro rootless
  cases rootless with
  | absent lacking =>
      refine not_lacks_of_lookup leads (lacking directory ?_)
      rw [order]
      exact List.mem_append_right _ List.mem_cons_self

theorem Opens.unique {place' : List String} {content' : List UInt8}
    (one : around.Opens anchor resource place content)
    (other : around.Opens anchor resource place' content') : place = place' := by
  cases one with
  | root order lacking leads =>
      cases other with
      | root order' lacking' leads' =>
          have same := first_unique (order.symm.trans order') lacking (not_lacks_of_lookup leads)
            lacking' (not_lacks_of_lookup leads')
          subst same
          cases leads.symm.trans leads'
          rfl
      | package rootless' => exact absurd rootless' (Opens.not_rootless order leads)
  | package rootless beside leads =>
      cases other with
      | root order' lacking' leads' =>
          exact absurd rootless (Opens.not_rootless order' leads')
      | package rootless' beside' leads' =>
          cases packageDirectory_unique beside beside'
          cases leads.symm.trans leads'
          rfl

/-! ### The class path -/

/-- A place below a root, or below a directory of the package that the module that asks belongs
to. -/
inductive OnClassPath (around : Surroundings) (anchor : Option String) (place : List String) : Prop
  | root {root : List String} (member : root ∈ around.roots)
      (below : Below (resolve (around.tree.home ++ root)) place) :
      OnClassPath around anchor place
  | package {name : String} {package : Module} {directory : List String} (asks : anchor = some name)
      (belongs : around.library.PackageOf name package)
      (member : directory ∈ package.directories)
      (below : Below (resolve (around.tree.home ++ directory)) place) :
      OnClassPath around anchor place

def Starts (around : Surroundings) (anchor : Option String) (resource : String)
    (directory : List String) : Prop :=
  directory ∈ around.roots ∨ around.PackageDirectory anchor resource directory

theorem Opens.exists_start (opens : around.Opens anchor resource place content) :
    ∃ directory, around.Starts anchor resource directory ∧
      around.tree.lookup directory resource = .entry place (.file content) := by
  cases opens with
  | root order lacking leads =>
      refine ⟨_, .inl ?_, leads⟩
      rw [order]
      exact List.mem_append_right _ List.mem_cons_self
  | package rootless beside leads => exact ⟨_, .inr beside, leads⟩

theorem resourceBase_mem {package : Module}
    (base : around.resourceBase package resource = some directory) :
    directory ∈ package.directories := by
  rw [resourceBase] at base
  cases found : package.directories.find? fun directory =>
      (around.tree.names directory).contains resource with
  | some known =>
      rw [found] at base
      cases base
      exact List.mem_of_find?_eq_some found
  | none =>
      rw [found] at base
      exact List.mem_of_mem_head? base

theorem onClassPath_of_below (starts : around.Starts anchor resource directory)
    (below : Below (resolve (around.tree.home ++ directory)) place) :
    around.OnClassPath anchor place := by
  cases starts with
  | inl member => exact .root member below
  | inr beside =>
      cases beside with
      | intro asks named belongs base => exact .package asks belongs (resourceBase_mem base) below

/-! ### Resources -/

def resourceRoute (path : String) : Route :=
  Route.along (FileTree.parts (bareResource path))

theorem bareResource_relative (path : String) : (bareResource path).startsWith "/" = false := by
  have listed : (bareResource path).toList = path.toList.dropWhile (· == '/') :=
    String.toList_ofList
  rw [← Bool.not_eq_true, String.startsWith_string_iff, listed]
  intro slashed
  obtain ⟨rest, whole⟩ := slashed
  have kept := List.head?_dropWhile_not (· == '/') path.toList
  rw [← whole] at kept
  cases kept

theorem place_of_lookup {path : String}
    (leads : around.tree.lookup directory (bareResource path) = .entry place (.file content)) :
    place = (resourceRoute path).endFrom (resolve (around.tree.home ++ directory)) := by
  rw [(FileTree.lookup_eq_entry_iff.mp leads).2.2.1,
    FileTree.resolve_steps (bareResource_relative path)]
  rfl

/-- A resource that never leads above the directory where it starts opens files of the class path
only. -/
theorem onClassPath_of_descends {path : String} (descends : (resourceRoute path).Descends)
    (opens : around.Opens anchor (bareResource path) place content) :
    around.OnClassPath anchor place := by
  obtain ⟨directory, starts, leads⟩ := opens.exists_start
  apply onClassPath_of_below starts
  rw [place_of_lookup leads]
  exact descends.below (resolve (around.tree.home ++ directory))

/-- Slashes and single points are no parts of a path, so a resource with a name and without double
points is on the class path however it is written. -/
theorem onClassPath_of_names {path : String} (names : ".." ∉ FileTree.parts (bareResource path))
    (filled : FileTree.parts (bareResource path) ≠ [])
    (opens : around.Opens anchor (bareResource path) place content) :
    around.OnClassPath anchor place := by
  refine onClassPath_of_descends ?_ opens
  rw [resourceRoute, Route.along_names names]
  exact ⟨rfl, filled⟩

def ofRoot (tree : FileTree) (root : List String) : Surroundings :=
  ⟨tree, [root], ⟨fun _ => .error .notFound⟩⟩

theorem opens_ofRoot {tree : FileTree} {root : List String}
    (leads : tree.lookup root resource = .entry place (.file content)) :
    (ofRoot tree root).Opens anchor resource place content :=
  .root (List.nil_append _).symm (List.forall_mem_nil _) leads

theorem onClassPath_ofRoot {tree : FileTree} {root : List String} :
    (ofRoot tree root).OnClassPath none place ↔ Below (resolve (tree.home ++ root)) place := by
  constructor
  · intro inside
    cases inside with
    | root member below =>
        cases List.mem_singleton.mp member
        exact below
    | package asks => cases asks
  · intro below
    exact .root List.mem_cons_self below

/-- A resource that leads above the directory where it starts, or ends there, and can lead to a file,
opens one that is not on the class path in some surroundings. -/
theorem exists_opens_astray {path : String} (openable : Openable (bareResource path))
    (strays : ¬ (resourceRoute path).Descends) :
    ∃ (around : Surroundings) (place : List String) (content : List UInt8),
      around.Opens none (bareResource path) place content ∧ ¬ around.OnClassPath none place := by
  -- the root is the home, one directory deeper than the resource climbs
  obtain ⟨name, plain, short, off⟩ := FileTree.exists_name_off (resourceRoute path)
  refine ⟨ofRoot _ _, _, _, opens_ofRoot (FileTree.lookup_treeFor openable
    (bareResource_relative path) plain short off), ?_⟩
  rw [onClassPath_ofRoot, List.append_nil, FileTree.treeFor, FileTree.treeAlong, FileTree.homeOf,
    FileTree.resolve_replicate plain]
  exact FileTree.not_below_homeOf off strays

/-- What a resource opens is the one file that is found for it, at the end of its route from the
directory where it starts. That file is below this directory exactly if the route goes down again
through the names that it left, and further. So a resource opens files of the class path only,
whatever its surroundings, exactly if it cannot lead to a file at all, or never leads above the
directory where it starts and ends below it. -/
theorem resource_confined_iff (path : String) :
    ((∀ (around : Surroundings) (anchor : Option String) (place : List String)
        (content : List UInt8), around.Opens anchor (bareResource path) place content →
          around.OnClassPath anchor place) ↔
      (Openable (bareResource path) → (resourceRoute path).Descends)) ∧
    ∀ (around : Surroundings) (anchor : Option String) (content : List UInt8),
      (around.locate (classPathMark ++ path) anchor = .ok content ↔
        ∃! place, around.Opens anchor (bareResource path) place content) ∧
      ∀ place, around.Opens anchor (bareResource path) place content →
        ∃ directory, around.Starts anchor (bareResource path) directory ∧
          place =
            (resourceRoute path).endFrom (resolve (around.tree.home ++ directory)) ∧
          (Below (resolve (around.tree.home ++ directory)) place ↔
            Below ((resolve (around.tree.home ++ directory)).rtake (resourceRoute path).up)
              (resourceRoute path).down) := by
  constructor
  · constructor
    · intro confined openable
      by_contra strays
      obtain ⟨around, place, content, opens, outside⟩ := exists_opens_astray openable strays
      exact outside (confined around none place content opens)
    · intro descends around anchor place content opens
      obtain ⟨directory, -, leads⟩ := opens.exists_start
      exact onClassPath_of_descends
        (descends (FileTree.openable_of_lookup (bareResource_relative path) leads)) opens
  · intro around anchor content
    constructor
    · rw [locate_mark, classPathContent_eq_iff, resourceAt_ok_iff]
      constructor
      · intro opened
        obtain ⟨place, opens⟩ := opened
        exact ⟨place, opens, fun other opens' => opens'.unique opens⟩
      · intro opened
        obtain ⟨place, opens, -⟩ := opened
        exact ⟨place, opens⟩
    · intro place opens
      obtain ⟨directory, starts, leads⟩ := opens.exists_start
      have ends := place_of_lookup leads
      refine ⟨directory, starts, ends, ?_⟩
      rw [ends]
      exact (resourceRoute path).below_endFrom_iff (resolve (around.tree.home ++ directory))

end Surroundings

namespace FileTree

theorem parts_above_k : parts "../k" = ["..", "k"] := by
  have split : "../k".splitOn "/" = ["..", "k"] := by
    unfold String.splitOn
    rw [if_neg (by decide)]
    iterate 2 rw [String.splitOnAux, if_neg (by decide), if_neg (by decide)]
    rw [String.splitOnAux, if_neg (by decide), if_pos (by decide), if_pos (by decide),
      String.splitOnAux, if_neg (by decide), if_neg (by decide), String.splitOnAux,
      if_pos (by decide)]
    decide
  rw [parts, split]
  decide

end FileTree

namespace Sample

def besideRoot : Surroundings :=
  .ofRoot ⟨[(["lib"], .directory), (["k"], .file [1])], []⟩ ["lib"]

theorem above_k_relative : "../k".startsWith "/" = false := by
  rw [← Bool.not_eq_true, String.startsWith_string_iff]
  decide

theorem besideRoot_lookup : besideRoot.tree.lookup ["lib"] "../k" = .entry ["k"] (.file [1]) := by
  have short : (FileTree.joined ["lib"] "../k").utf8ByteSize < FileTree.pathLimit := by
    rw [FileTree.joined_relative above_k_relative, FileTree.parts_above_k]
    decide
  rw [FileTree.lookup_eq_walk (by decide) short, FileTree.steps_relative above_k_relative,
    FileTree.parts_above_k]
  decide

theorem besideRoot_opens : besideRoot.Opens none "../k" ["k"] [1] :=
  Surroundings.opens_ofRoot besideRoot_lookup

theorem besideRoot_outside : ¬ besideRoot.OnClassPath none ["k"] := by
  rw [besideRoot, Surroundings.onClassPath_ofRoot]
  decide

end Sample

namespace Surroundings

theorem bareResource_above_k : bareResource "../k" = "../k" := by decide

theorem resource_confined_iff_astray :
    (¬ ∀ (around : Surroundings) (anchor : Option String) (place : List String)
      (content : List UInt8), around.Opens anchor (bareResource "../k") place content →
        around.OnClassPath anchor place) ∧
    ∃ directory, Sample.besideRoot.Starts none (bareResource "../k") directory ∧
      ["k"] =
        (resourceRoute "../k").endFrom (resolve (Sample.besideRoot.tree.home ++ directory)) ∧
      (Below (resolve (Sample.besideRoot.tree.home ++ directory)) ["k"] ↔
        Below ((resolve (Sample.besideRoot.tree.home ++ directory)).rtake
          (resourceRoute "../k").up) (resourceRoute "../k").down) := by
  obtain ⟨confined, located⟩ := resource_confined_iff "../k"
  have openable : Openable (bareResource "../k") := by
    rw [bareResource_above_k]
    exact FileTree.openable_of_lookup Sample.above_k_relative Sample.besideRoot_lookup
  have opens : Sample.besideRoot.Opens none (bareResource "../k") ["k"] [1] := by
    rw [bareResource_above_k]
    exact Sample.besideRoot_opens
  refine ⟨?_, (located Sample.besideRoot none [1]).2 ["k"] opens⟩
  intro always
  have descends := confined.mp always openable
  rw [resourceRoute, bareResource_above_k, FileTree.parts_above_k] at descends
  exact absurd descends (by decide)

/-- A double point in a resource leads out of the root. -/
theorem locate_outside :
    Sample.besideRoot.locate "classpath:../k" none = .ok [1] ∧
      Sample.besideRoot.Opens none (bareResource "../k") ["k"] [1] ∧
      ¬ Sample.besideRoot.OnClassPath none ["k"] := by
  have marked : "classpath:../k" = classPathMark ++ "../k" := by decide
  have opens : Sample.besideRoot.Opens none (bareResource "../k") ["k"] [1] := by
    rw [bareResource_above_k]
    exact Sample.besideRoot_opens
  refine ⟨?_, opens, Sample.besideRoot_outside⟩
  rw [marked, locate_mark, classPathContent_eq_iff, resourceAt_ok_iff]
  exact ⟨["k"], opens⟩

end Surroundings

end ClientWiring
