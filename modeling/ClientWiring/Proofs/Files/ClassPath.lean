import ClientWiring.Class.Sample
import ClientWiring.Proofs.Class.Name
import ClientWiring.Proofs.Files.Location
set_option autoImplicit false

/-! Resources on the class path. A resource is the file below the first root that has it; where no
root has it, it is looked for in the package of the module that asks. Other locations are looked up
in neither. -/

namespace ClientWiring

namespace Library

/-! ### The package of a module -/

def IsParent (parent name : String) : Prop :=
  ∃ last : String, '.' ∉ last.toList ∧ name = parent ++ "." ++ last

theorem parts_of_pointless {name : String} (pointless : '.' ∉ name.toList) :
    parts name = [name] := by
  rw [parts, List.splitOn_eq_singleton pointless, List.map_singleton, String.ofList_toList]

theorem dropLast_parts_of_isParent {parent name : String} (above : IsParent parent name) :
    (parts name).dropLast = parts parent := by
  obtain ⟨last, pointless, rfl⟩ := above
  rw [parts_append, parts_of_pointless pointless, List.dropLast_concat]

theorem exists_isParent {name : String} (pointed : '.' ∈ name.toList) :
    ∃ parent, IsParent parent name := by
  obtain ⟨after, before, split, absent⟩ :=
    List.eq_append_cons_of_mem (List.mem_reverse.mpr pointed)
  have chars : name.toList = before.reverse ++ '.' :: after.reverse := by
    rw [← List.reverse_reverse name.toList, split]
    simp
  refine ⟨String.ofList before.reverse, String.ofList after.reverse, by simpa using absent, ?_⟩
  apply String.toList_inj.mp
  rw [chars]
  simp

theorem packageNamed?_eq_some_iff {library : Library} {name : String} {package : Module} :
    library.packageNamed? name = .ok (some package) ↔
      library.load name = .ok package ∧ package.origin.holdsModules = true := by
  rw [packageNamed?]
  cases library.load name with
  | error e => cases lacks : e.lacksPackage <;> simp [lacks]
  | ok found =>
      constructor
      · intro named
        cases origin : found.origin with
        | package | namespacePackage =>
            simp only [origin] at named
            cases named
            exact ⟨rfl, by rw [origin]; rfl⟩
        | leaf | unsearched stated =>
            simp only [origin] at named
            cases named
      · rintro ⟨same, holds⟩
        cases same
        cases origin : package.origin with
        | package | namespacePackage => simp only [origin]
        | leaf | unsearched stated =>
            rw [origin] at holds
            cases holds

theorem packageNamed?_empty (library : Library) : library.packageNamed? "" = .ok none := by
  have unnamed : library.load "" = .error .emptyName := rfl
  rw [packageNamed?, unnamed]
  rfl

/-- The package that a module belongs to: a package is its own, a module that was found by a search
belongs to its parent, and any other one to the package that it states. -/
inductive PackageOf (library : Library) (anchor : String) : Module → Prop
  | itself {module : Module} (loaded : library.load anchor = .ok module)
      (package : module.origin.holdsModules = true) : PackageOf library anchor module
  | parent {module package : Module} {parent : String} (loaded : library.load anchor = .ok module)
      (leaf : module.origin = .leaf) (above : IsParent parent module.name)
      (found : library.load parent = .ok package) (holds : package.origin.holdsModules = true) :
      PackageOf library anchor package
  | stated {module package : Module} {name : String} (loaded : library.load anchor = .ok module)
      (unsearched : module.origin = .unsearched (some name))
      (found : library.load name = .ok package) (holds : package.origin.holdsModules = true) :
      PackageOf library anchor package

theorem packageName_of_isParent {module : Module} {parent : String} (leaf : module.origin = .leaf)
    (above : IsParent parent module.name) : packageName module = parent := by
  simp only [packageName, leaf]
  rw [dropLast_parts_of_isParent above, intercalate_parts]

theorem packageName_of_pointless {module : Module} (leaf : module.origin = .leaf)
    (pointless : '.' ∉ module.name.toList) : packageName module = "" := by
  simp only [packageName, leaf]
  rw [parts_of_pointless pointless]
  rfl

theorem packageName_of_unsearched {module : Module} {stated : Option String}
    (unsearched : module.origin = .unsearched stated) :
    packageName module = stated.getD "" := by
  simp only [packageName, unsearched]

end Library

namespace Surroundings

variable {around : Surroundings} {anchor : String}

theorem anchorPackage?_of_package {module : Module}
    (loaded : around.library.load anchor = .ok module)
    (package : module.origin.holdsModules = true) :
    around.anchorPackage? anchor = .ok (some module) := by
  simp only [anchorPackage?, loaded]
  exact if_pos package

theorem anchorPackage?_of_module {module : Module}
    (loaded : around.library.load anchor = .ok module)
    (inside : module.origin.holdsModules = false) :
    around.anchorPackage? anchor = around.library.packageNamed? (Library.packageName module) := by
  simp only [anchorPackage?, loaded]
  rw [inside, if_neg Bool.false_ne_true]

theorem anchorPackage?_of_packageOf {package : Module}
    (belongs : around.library.PackageOf anchor package) :
    around.anchorPackage? anchor = .ok (some package) := by
  cases belongs with
  | itself loaded package => exact anchorPackage?_of_package loaded package
  | parent loaded leaf above found holds =>
      rw [anchorPackage?_of_module loaded (by rw [leaf]; rfl),
        Library.packageName_of_isParent leaf above]
      exact Library.packageNamed?_eq_some_iff.mpr ⟨found, holds⟩
  | stated loaded unsearched found holds =>
      rw [anchorPackage?_of_module loaded (by rw [unsearched]; rfl),
        Library.packageName_of_unsearched unsearched]
      exact Library.packageNamed?_eq_some_iff.mpr ⟨found, holds⟩

theorem packageOf_of_anchorPackage? {package : Module}
    (held : around.anchorPackage? anchor = .ok (some package)) :
    around.library.PackageOf anchor package := by
  cases loaded : around.library.load anchor with
  | error e =>
      simp only [anchorPackage?, loaded] at held
      cases absence : e.isAbsence with
      | true =>
          rw [absence, if_pos rfl] at held
          cases held
      | false =>
          rw [absence, if_neg Bool.false_ne_true] at held
          cases held
  | ok module =>
      cases origin : module.origin with
      | package | namespacePackage =>
          have package : module.origin.holdsModules = true := by rw [origin]; rfl
          cases held.symm.trans (anchorPackage?_of_package loaded package)
          exact .itself loaded package
      | leaf =>
          rw [anchorPackage?_of_module loaded (by rw [origin]; rfl)] at held
          by_cases pointed : '.' ∈ module.name.toList
          · obtain ⟨parent, above⟩ := Library.exists_isParent pointed
            rw [Library.packageName_of_isParent origin above] at held
            obtain ⟨found, holds⟩ := Library.packageNamed?_eq_some_iff.mp held
            exact .parent loaded origin above found holds
          · -- a module of the top level is in no package: nothing has the empty name
            rw [Library.packageName_of_pointless origin pointed,
              Library.packageNamed?_empty] at held
            cases held
      | unsearched stated =>
          rw [anchorPackage?_of_module loaded (by rw [origin]; rfl),
            Library.packageName_of_unsearched origin] at held
          cases stated with
          | none =>
              rw [Option.getD_none, Library.packageNamed?_empty] at held
              cases held
          | some name =>
              obtain ⟨found, holds⟩ := Library.packageNamed?_eq_some_iff.mp held
              exact .stated loaded origin found holds

theorem anchorPackage?_eq_some_iff {package : Module} :
    around.anchorPackage? anchor = .ok (some package) ↔ around.library.PackageOf anchor package :=
  ⟨packageOf_of_anchorPackage?, anchorPackage?_of_packageOf⟩

/-! ### Resources -/

/-- The directory of the package that the module that asks belongs to. A module without a name asks
for nothing. -/
inductive PackageDirectory (around : Surroundings) (anchor : Option String) (resource : String)
    (directory : List String) : Prop
  | intro {name : String} {package : Module} (asks : anchor = some name) (named : name ≠ "")
      (belongs : around.library.PackageOf name package)
      (base : around.resourceBase package resource = some directory) :
      PackageDirectory around anchor resource directory

/-- What a resource of the class path comes to, asked for by a module: the file below the first root
that has it, or else the one in the package of the module. -/
inductive ResourceAt (around : Surroundings) (anchor : Option String) (resource : String) :
    Except StoreError (List UInt8) → Prop
  | root {content : List UInt8}
      (found : Sought around.tree resource around.roots (.ok (some content))) :
      ResourceAt around anchor resource (.ok content)
  | package {directory : List String} {content : List UInt8}
      (rootless : Sought around.tree resource around.roots (.ok none))
      (beside : around.PackageDirectory anchor resource directory)
      (has : around.tree.HasFile directory resource content) :
      ResourceAt around anchor resource (.ok content)
  | absent (rootless : Sought around.tree resource around.roots (.ok none))
      (unbroken : ∀ name e, anchor = some name → name ≠ "" → ¬ around.library.Breaks name e)
      (lacking : ∀ directory, around.PackageDirectory anchor resource directory →
        around.tree.LacksFile directory resource) :
      ResourceAt around anchor resource (.error (.config (.resourceNotFound resource)))
  | broken {name : String} {e : LoadError}
      (rootless : Sought around.tree resource around.roots (.ok none))
      (asks : anchor = some name) (named : name ≠ "") (breaks : around.library.Breaks name e) :
      ResourceAt around anchor resource (.error (.load e))
  | tooLongInRoots {e : StoreError}
      (failed : Sought around.tree resource around.roots (.error e)) :
      ResourceAt around anchor resource (.error e)
  | tooLongInPackage {directory : List String}
      (rootless : Sought around.tree resource around.roots (.ok none))
      (beside : around.PackageDirectory anchor resource directory)
      (long : around.tree.lookup directory resource = .nameTooLong) :
      ResourceAt around anchor resource
        (.error (.nameTooLong (FileTree.joined directory resource)))

section Beside

variable {anchor : Option String} {resource : String} {directory : List String}

theorem beside_of_packageDirectory
    (beside : around.PackageDirectory anchor resource directory) :
    around.beside anchor resource = .ok [directory] := by
  cases beside with
  | intro asks named belongs base =>
      subst asks
      unfold Surroundings.beside
      split
      next absent => cases absent
      next empty =>
        cases empty
        exact absurd rfl named
      next name given =>
        cases given
        rw [anchorPackage?_eq_some_iff.mpr belongs, Except.map, Option.bind_some, base]
        rfl

theorem packageDirectory_of_mem {last : List (List String)}
    (beside : around.beside anchor resource = .ok last) (member : directory ∈ last) :
    around.PackageDirectory anchor resource directory := by
  unfold Surroundings.beside at beside
  split at beside
  next =>
    cases beside
    cases member
  next =>
    cases beside
    cases member
  next name named =>
    cases found : around.anchorPackage? name with
    | error e =>
        rw [found] at beside
        cases beside
    | ok package? =>
        rw [found] at beside
        cases beside
        rw [Option.mem_toList, Option.bind_eq_some_iff] at member
        obtain ⟨package, rfl, base⟩ := member
        exact .intro rfl named (anchorPackage?_eq_some_iff.mp found) base

/-- Where no root has a resource, the package decides. -/
theorem classPathContent_of_rootless
    (rootless : Sought around.tree resource around.roots (.ok none)) :
    around.classPathContent anchor resource =
      Search.settle ⟨resource, [], none, .resourceNotFound resource⟩
        (around.packageContent anchor resource) := by
  rw [classPathContent_eq_settle, resourceInRoots_eq_iff.mpr rootless]
  rfl

theorem resourceAt_of_beside {last : List (List String)}
    {outcome : Except StoreError (Option (List UInt8))}
    (rootless : Sought around.tree resource around.roots (.ok none))
    (beside : around.beside anchor resource = .ok last)
    (sought : Sought around.tree resource last outcome) :
    around.ResourceAt anchor resource
      (Search.settle ⟨resource, [], none, .resourceNotFound resource⟩ outcome) := by
  cases sought with
  | @found earlier later directory content order lacking has =>
      have member : directory ∈ last := by
        rw [order]
        exact List.mem_append_right _ List.mem_cons_self
      exact .package rootless (packageDirectory_of_mem beside member) has
  | absent lacking =>
      apply ResourceAt.absent rootless
      · intro name e asks named breaks
        cases beside.symm.trans (beside_eq_error_iff.mpr ⟨name, asks, named, breaks⟩)
      · intro directory held
        cases beside.symm.trans (beside_of_packageDirectory held)
        exact lacking directory List.mem_cons_self
  | @nameTooLong earlier later directory order lacking long =>
      have member : directory ∈ last := by
        rw [order]
        exact List.mem_append_right _ List.mem_cons_self
      exact .tooLongInPackage rootless (packageDirectory_of_mem beside member) long

theorem resourceAt_classPathContent (around : Surroundings) (anchor : Option String)
    (resource : String) :
    around.ResourceAt anchor resource (around.classPathContent anchor resource) := by
  have inRoots := resourceInRoots_sought around resource around.roots
  cases roots : around.resourceInRoots resource around.roots with
  | error e =>
      rw [classPathContent_eq_settle, roots]
      rw [roots] at inRoots
      exact .tooLongInRoots inRoots
  | ok content? =>
      rw [roots] at inRoots
      cases content? with
      | some content =>
          rw [classPathContent_eq_settle, roots]
          exact .root inRoots
      | none =>
          rw [classPathContent_of_rootless inRoots]
          cases beside : around.beside anchor resource with
          | error e =>
              rw [packageContent_of_unloaded beside]
              obtain ⟨name, asks, named, breaks⟩ := beside_eq_error_iff.mp beside
              exact .broken inRoots asks named breaks
          | ok last =>
              rw [packageContent_of_beside beside]
              exact resourceAt_of_beside inRoots beside
                (resourceInRoots_sought around resource last)

theorem packageContent_of_packageDirectory
    (beside : around.PackageDirectory anchor resource directory) :
    around.packageContent anchor resource =
      contentAt (around.tree.lookup directory resource) (FileTree.joined directory resource) := by
  rw [packageContent_of_beside (beside_of_packageDirectory beside), resourceInRoots]
  cases contentAt (around.tree.lookup directory resource) (FileTree.joined directory resource) with
  | error e => rfl
  | ok content? => cases content? <;> rfl

theorem packageContent_of_lacking
    (unbroken : ∀ name e, anchor = some name → name ≠ "" → ¬ around.library.Breaks name e)
    (lacking : ∀ directory, around.PackageDirectory anchor resource directory →
      around.tree.LacksFile directory resource) :
    around.packageContent anchor resource = .ok none := by
  cases beside : around.beside anchor resource with
  | error e =>
      obtain ⟨name, asks, named, breaks⟩ := beside_eq_error_iff.mp beside
      exact absurd breaks (unbroken name e asks named)
  | ok last =>
      rw [packageContent_of_beside beside]
      apply resourceInRoots_of_lacking
      intro directory member
      exact lacking directory (packageDirectory_of_mem beside member)

theorem classPathContent_of_resourceAt {outcome : Except StoreError (List UInt8)}
    (comes : around.ResourceAt anchor resource outcome) :
    around.classPathContent anchor resource = outcome := by
  cases comes with
  | root found =>
      rw [classPathContent_eq_settle, resourceInRoots_eq_iff.mpr found]
      rfl
  | package rootless beside has =>
      rw [classPathContent_of_rootless rootless, packageContent_of_packageDirectory beside,
        contentAt_eq_some_iff.mpr has]
      rfl
  | absent rootless unbroken lacking =>
      rw [classPathContent_of_rootless rootless, packageContent_of_lacking unbroken lacking]
      rfl
  | broken rootless asks named breaks =>
      have unloaded : around.beside anchor resource = .error _ :=
        beside_eq_error_iff.mpr ⟨_, asks, named, breaks⟩
      rw [classPathContent_of_rootless rootless, packageContent_of_unloaded unloaded]
      rfl
  | tooLongInRoots failed =>
      rw [classPathContent_eq_settle, resourceInRoots_eq_iff.mpr failed]
      rfl
  | tooLongInPackage rootless beside long =>
      rw [classPathContent_of_rootless rootless, packageContent_of_packageDirectory beside,
        contentAt_eq_error_iff.mpr ⟨long, rfl⟩]
      rfl

theorem classPathContent_eq_iff {outcome : Except StoreError (List UInt8)} :
    around.classPathContent anchor resource = outcome ↔
      around.ResourceAt anchor resource outcome := by
  constructor
  · rintro rfl
    exact resourceAt_classPathContent around anchor resource
  · exact classPathContent_of_resourceAt

end Beside

/-! ### Locations -/

theorem afterMark?_append (mark text : String) : afterMark? mark (mark ++ text) = some text := by
  have marked : (mark ++ text).startsWith mark = true := by
    rw [String.startsWith_string_iff, String.toList_append]
    exact List.prefix_append _ _
  rw [afterMark?, if_pos marked, String.toList_append, ← String.length_toList, List.drop_left,
    String.ofList_toList]

def bareResource (path : String) : String :=
  String.ofList (path.toList.dropWhile (· == '/'))

theorem locate_mark (around : Surroundings) (path : String) (anchor : Option String) :
    around.locate (classPathMark ++ path) anchor =
      around.classPathContent anchor (bareResource path) := by
  rw [locate, afterMark?_append]
  rfl

end Surroundings

namespace Sample

end Sample

end ClientWiring
