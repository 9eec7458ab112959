import ClientWiring.Files.Location
set_option autoImplicit false

/-! Where the file at a location is looked for: at a path below directories that are gone through in
order, the last of them beside the module that asks. The first directory that has the file decides,
unless the path is too long to be looked up before. -/

namespace ClientWiring

namespace FileTree

def HasFile (tree : FileTree) (directory : List String) (path : String) (content : List UInt8) :
    Prop :=
  ∃ place, tree.lookup directory path = .entry place (.file content)

def LacksFile (tree : FileTree) (directory : List String) (path : String) : Prop :=
  tree.lookup directory path ≠ .nameTooLong ∧ ∀ content, ¬ tree.HasFile directory path content

theorem lookup_eq_walk {base : List String} {path : String} (plain : '\x00' ∉ path.toList)
    (short : (joined base path).utf8ByteSize < pathLimit) (tree : FileTree) :
    tree.lookup base path = tree.walk [] (tree.steps base path) := by
  rw [lookup, if_neg (by simpa using plain), if_neg (Nat.not_le.mpr short)]

theorem steps_relative {path : String} (relative : path.startsWith "/" = false) (tree : FileTree)
    (base : List String) : tree.steps base path = tree.home ++ (base ++ parts path) := by
  rw [steps, relative, if_neg Bool.false_ne_true]

theorem joined_relative {path : String} (relative : path.startsWith "/" = false)
    (base : List String) : joined base path = asText (base ++ parts path) := by
  rw [joined, relative, if_neg Bool.false_ne_true]

/-! ### Paths of one name -/

theorem lookup_k {base : List String} (short : (asText (base ++ ["k"])).utf8ByteSize < pathLimit)
    (tree : FileTree) : tree.lookup base "k" = tree.walk [] (tree.home ++ (base ++ ["k"])) := by
  have split : "k".splitOn "/" = ["k"] := by
    unfold String.splitOn
    rw [if_neg (by decide), String.splitOnAux, if_neg (by decide),
      if_neg (by decide), String.splitOnAux, if_pos (by decide)]
    decide
  have named : parts "k" = ["k"] := by
    rw [parts, split]
    decide
  have relative : "k".startsWith "/" = false := by
    rw [← Bool.not_eq_true, String.startsWith_string_iff]
    decide
  rw [← named, ← joined_relative relative] at short
  rw [lookup_eq_walk (by decide) short, steps_relative relative, named]

theorem lookup_slash_k (tree : FileTree) (base : List String) :
    tree.lookup base "/k" = tree.walk [] ["k"] := by
  have split : "/k".splitOn "/" = ["", "k"] := by
    unfold String.splitOn
    rw [if_neg (by decide), String.splitOnAux, if_neg (by decide), if_pos (by decide),
      if_pos (by decide), String.splitOnAux, if_neg (by decide), if_neg (by decide),
      String.splitOnAux, if_pos (by decide)]
    decide
  have named : parts "/k" = ["k"] := by
    rw [parts, split]
    decide
  have rooted : "/k".startsWith "/" = true := by
    rw [String.startsWith_string_iff]
    decide
  have short : (joined base "/k").utf8ByteSize < pathLimit := by
    rw [joined, if_pos rooted, named]
    decide
  rw [lookup_eq_walk (by decide) short, steps, if_pos rooted, named]

end FileTree

/-- The package of a module cannot be had: the module breaks when it is loaded, or else the package
that it names. -/
inductive Library.Breaks (library : Library) (anchor : String) : LoadError → Prop
  | itself {e : LoadError} (failed : library.load anchor = .error e)
      (present : e.isAbsence = false) : Breaks library anchor e
  | package {module : Module} {e : LoadError} (loaded : library.load anchor = .ok module)
      (inside : module.origin.holdsModules = false)
      (failed : library.packageNamed? (packageName module) = .error e) : Breaks library anchor e

namespace Surroundings

variable {around : Surroundings} {path : String} {directories : List (List String)}

/-! ### Below one directory -/

section At

variable {tree : FileTree} {directory : List String} {named : String}

theorem contentAt_eq_some_iff {content : List UInt8} :
    contentAt (tree.lookup directory path) named = .ok (some content) ↔
      tree.HasFile directory path content := by
  rw [FileTree.HasFile]
  cases tree.lookup directory path with
  | missing => simp [contentAt]
  | nameTooLong => simp [contentAt]
  | entry place entry => cases entry <;> simp [contentAt, FileEntry.content?]

theorem contentAt_eq_error_iff {e : StoreError} :
    contentAt (tree.lookup directory path) named = .error e ↔
      tree.lookup directory path = .nameTooLong ∧ e = .nameTooLong named := by
  cases tree.lookup directory path with
  | missing => simp [contentAt]
  | nameTooLong => simp [contentAt, eq_comm]
  | entry place entry => simp [contentAt]

theorem contentAt_eq_none_iff :
    contentAt (tree.lookup directory path) named = .ok none ↔ tree.LacksFile directory path := by
  rw [FileTree.LacksFile]
  constructor
  · intro absent
    refine ⟨fun long => ?_, fun content has => ?_⟩
    · cases (contentAt_eq_error_iff.mpr ⟨long, rfl⟩).symm.trans absent
    · cases (contentAt_eq_some_iff.mpr has).symm.trans absent
  · rintro ⟨short, lacks⟩
    cases found : contentAt (tree.lookup directory path) named with
    | error e => exact absurd (contentAt_eq_error_iff.mp found).1 short
    | ok content? =>
        cases content? with
        | none => rfl
        | some content => exact absurd (contentAt_eq_some_iff.mp found) (lacks content)

end At

/-! ### Below directories in order -/

/-- What looking for a file below directories comes to: the file in the first of them that has it, no
file, or a path that is too long below the first of them where it is not merely absent. -/
inductive Sought (tree : FileTree) (path : String) (directories : List (List String)) :
    Except StoreError (Option (List UInt8)) → Prop
  | found {earlier later : List (List String)} {directory : List String} {content : List UInt8}
      (order : directories = earlier ++ directory :: later)
      (lacking : ∀ other ∈ earlier, tree.LacksFile other path)
      (has : tree.HasFile directory path content) :
      Sought tree path directories (.ok (some content))
  | absent (lacking : ∀ directory ∈ directories, tree.LacksFile directory path) :
      Sought tree path directories (.ok none)
  | nameTooLong {earlier later : List (List String)} {directory : List String}
      (order : directories = earlier ++ directory :: later)
      (lacking : ∀ other ∈ earlier, tree.LacksFile other path)
      (long : tree.lookup directory path = .nameTooLong) :
      Sought tree path directories (.error (.nameTooLong (FileTree.joined directory path)))

theorem Sought.behind {tree : FileTree} {directory : List String}
    {outcome : Except StoreError (Option (List UInt8))} (lacks : tree.LacksFile directory path)
    (sought : Sought tree path directories outcome) :
    Sought tree path (directory :: directories) outcome := by
  have extended : ∀ earlier : List (List String),
      (∀ other ∈ earlier, tree.LacksFile other path) →
        ∀ other ∈ directory :: earlier, tree.LacksFile other path :=
    fun _ lacking => List.forall_mem_cons.mpr ⟨lacks, lacking⟩
  cases sought with
  | found order lacking has =>
      exact .found (congrArg (directory :: ·) order) (extended _ lacking) has
  | absent lacking => exact .absent (extended _ lacking)
  | nameTooLong order lacking long =>
      exact .nameTooLong (congrArg (directory :: ·) order) (extended _ lacking) long

theorem resourceInRoots_cons_of_lacks {directory : List String}
    (lacks : around.tree.LacksFile directory path) (rest : List (List String)) :
    around.resourceInRoots path (directory :: rest) = around.resourceInRoots path rest := by
  rw [resourceInRoots, contentAt_eq_none_iff.mpr lacks]

def thenIn (first second : Except StoreError (Option (List UInt8))) :
    Except StoreError (Option (List UInt8)) :=
  match first with
  | .ok none => second
  | settled => settled

theorem resourceInRoots_append (around : Surroundings) (path : String)
    (directories rest : List (List String)) :
    around.resourceInRoots path (directories ++ rest) =
      thenIn (around.resourceInRoots path directories) (around.resourceInRoots path rest) := by
  induction directories with
  | nil => rfl
  | cons directory directories ih =>
      rw [List.cons_append, resourceInRoots, resourceInRoots]
      cases contentAt (around.tree.lookup directory path) (FileTree.joined directory path) with
      | error e => rfl
      | ok content? =>
          cases content? with
          | none => exact ih
          | some content => rfl

theorem resourceInRoots_of_lacking
    (lacking : ∀ directory ∈ directories, around.tree.LacksFile directory path) :
    around.resourceInRoots path directories = .ok none := by
  induction directories with
  | nil => rfl
  | cons directory directories ih =>
      rw [List.forall_mem_cons] at lacking
      rw [resourceInRoots_cons_of_lacks lacking.1, ih lacking.2]

theorem resourceInRoots_append_of_lacking {earlier : List (List String)}
    (lacking : ∀ directory ∈ earlier, around.tree.LacksFile directory path)
    (rest : List (List String)) :
    around.resourceInRoots path (earlier ++ rest) = around.resourceInRoots path rest := by
  rw [resourceInRoots_append, resourceInRoots_of_lacking lacking, thenIn]

theorem resourceInRoots_sought (around : Surroundings) (path : String)
    (directories : List (List String)) :
    Sought around.tree path directories (around.resourceInRoots path directories) := by
  induction directories with
  | nil => exact .absent (List.forall_mem_nil _)
  | cons directory rest ih =>
      rw [resourceInRoots]
      cases found : contentAt (around.tree.lookup directory path) (FileTree.joined directory path) with
      | error e =>
          obtain ⟨long, rfl⟩ := contentAt_eq_error_iff.mp found
          exact .nameTooLong (List.nil_append _).symm (List.forall_mem_nil _) long
      | ok content? =>
          cases content? with
          -- no file, but nothing in the way either: the rest decides
          | none => exact ih.behind (contentAt_eq_none_iff.mp found)
          | some content =>
              exact .found (List.nil_append _).symm (List.forall_mem_nil _)
                (contentAt_eq_some_iff.mp found)

theorem resourceInRoots_eq_iff {outcome : Except StoreError (Option (List UInt8))} :
    around.resourceInRoots path directories = outcome ↔
      Sought around.tree path directories outcome := by
  constructor
  · rintro rfl
    exact resourceInRoots_sought around path directories
  · intro sought
    cases sought with
    | found order lacking has =>
        rw [order, resourceInRoots_append_of_lacking lacking, resourceInRoots,
          contentAt_eq_some_iff.mpr has]
    | absent lacking => exact resourceInRoots_of_lacking lacking
    | nameTooLong order lacking long =>
        rw [order, resourceInRoots_append_of_lacking lacking, resourceInRoots,
          contentAt_eq_error_iff.mpr ⟨long, rfl⟩]

/-! ### From a location -/

/-- What a location stands for: a path below directories in order, what went wrong when the last of
them was asked for, and what is said where none of them has the file. -/
structure Search where
  path : String
  directories : List (List String)
  failure : Option LoadError
  absent : ConfigError

namespace Search

def otherwise (search : Search) : StoreError :=
  search.failure.elim (.config search.absent) .load

def settle (search : Search) :
    Except StoreError (Option (List UInt8)) → Except StoreError (List UInt8)
  | .error e => .error e
  | .ok (some content) => .ok content
  | .ok none => .error search.otherwise

inductive Ends (tree : FileTree) (search : Search) : Except StoreError (List UInt8) → Prop
  | found {content : List UInt8}
      (sought : Sought tree search.path search.directories (.ok (some content))) :
      Ends tree search (.ok content)
  | absent (sought : Sought tree search.path search.directories (.ok none))
      (complete : search.failure = none) : Ends tree search (.error (.config search.absent))
  | unloaded {e : LoadError} (sought : Sought tree search.path search.directories (.ok none))
      (failed : search.failure = some e) : Ends tree search (.error (.load e))
  | nameTooLong {e : StoreError}
      (sought : Sought tree search.path search.directories (.error e)) :
      Ends tree search (.error e)

def outcome (search : Search) (around : Surroundings) : Except StoreError (List UInt8) :=
  search.settle (around.resourceInRoots search.path search.directories)

theorem ends_outcome (search : Search) (around : Surroundings) :
    search.Ends around.tree (search.outcome around) := by
  have sought := resourceInRoots_sought around search.path search.directories
  rw [outcome]
  cases found : around.resourceInRoots search.path search.directories with
  | error e =>
      rw [found] at sought
      exact .nameTooLong sought
  | ok content? =>
      rw [found] at sought
      cases content? with
      | some content => exact .found sought
      | none =>
          cases failure : search.failure with
          | none =>
              rw [settle, otherwise, failure]
              exact .absent sought failure
          | some e =>
              rw [settle, otherwise, failure]
              exact .unloaded sought failure

theorem outcome_eq_iff {search : Search} {end? : Except StoreError (List UInt8)} :
    search.outcome around = end? ↔ search.Ends around.tree end? := by
  constructor
  · rintro rfl
    exact search.ends_outcome around
  · intro ends
    rw [outcome]
    cases ends with
    | found sought =>
        rw [resourceInRoots_eq_iff.mpr sought, settle]
    | absent sought complete =>
        rw [resourceInRoots_eq_iff.mpr sought, settle, otherwise, complete]
        rfl
    | unloaded sought failed =>
        rw [resourceInRoots_eq_iff.mpr sought, settle, otherwise, failed]
        rfl
    | nameTooLong sought =>
        rw [resourceInRoots_eq_iff.mpr sought, settle]

end Search

def beside (around : Surroundings) (anchor : Option String) (resource : String) :
    Except LoadError (List (List String)) :=
  match anchor with
  | none | some "" => .ok []
  | some anchor =>
    (around.anchorPackage? anchor).map fun package? =>
      (package?.bind fun package => around.resourceBase package resource).toList

def searchClassPath (around : Surroundings) (anchor : Option String) (resource : String) : Search :=
  match around.beside anchor resource with
  | .ok last => ⟨resource, around.roots ++ last, none, .resourceNotFound resource⟩
  | .error e => ⟨resource, around.roots, some e, .resourceNotFound resource⟩

def searchFor (around : Surroundings) (location : String) (anchor : Option String) : Search :=
  match afterMark? classPathMark location with
  | some resource =>
    around.searchClassPath anchor (String.ofList (resource.toList.dropWhile (· == '/')))
  | none =>
    let path := (afterMark? fileMark location).getD location
    ⟨path, [[]], none, .fileNotFound path⟩

theorem fileContent_eq (around : Surroundings) (path : String) :
    around.fileContent path = Search.outcome ⟨path, [[]], none, .fileNotFound path⟩ around := by
  rw [fileContent, Search.outcome, resourceInRoots, resourceInRoots]
  cases contentAt (around.tree.lookup [] path) (FileTree.joined [] path) with
  | error e => rfl
  | ok content? => cases content? <;> rfl

theorem resourceInPackage_of_error {anchor : String} {e : LoadError}
    (failed : around.anchorPackage? anchor = .error e) (resource : String) :
    around.resourceInPackage anchor resource = .error (.load e) := by
  rw [resourceInPackage, failed]

theorem resourceInPackage_of_ok {anchor : String} {package? : Option Module}
    (found : around.anchorPackage? anchor = .ok package?) (resource : String) :
    around.resourceInPackage anchor resource =
      around.resourceInRoots resource
        (package?.bind fun package => around.resourceBase package resource).toList := by
  rw [resourceInPackage, found]
  cases package? with
  | none => rfl
  | some package =>
      cases base : around.resourceBase package resource with
      | none => simp [base, resourceInRoots]
      | some directory =>
        simp only [base, Option.bind_some, Option.toList_some, resourceInRoots]
        cases contentAt (around.tree.lookup directory resource) (FileTree.joined directory resource) with
        | error e => rfl
        | ok content? => cases content? <;> rfl

def packageContent (around : Surroundings) (anchor : Option String) (resource : String) :
    Except StoreError (Option (List UInt8)) :=
  match anchor with
  | none | some "" => .ok none
  | some anchor => around.resourceInPackage anchor resource

theorem classPathContent_eq_settle (around : Surroundings) (anchor : Option String)
    (resource : String) :
    around.classPathContent anchor resource =
      Search.settle ⟨resource, [], none, .resourceNotFound resource⟩
        (thenIn (around.resourceInRoots resource around.roots)
          (around.packageContent anchor resource)) := by
  delta classPathContent
  cases around.resourceInRoots resource around.roots with
  | error e => rfl
  | ok content? =>
      cases content? with
      | some content => rfl
      | none =>
          change (match around.packageContent anchor resource with
            | .error e => Except.error e
            | .ok (some content) => Except.ok content
            | .ok none => Except.error (.config (.resourceNotFound resource))) = _
          cases around.packageContent anchor resource with
          | error e => rfl
          | ok content? => cases content? <;> rfl

theorem packageContent_of_beside {anchor : Option String} {resource : String}
    {last : List (List String)} (beside : around.beside anchor resource = .ok last) :
    around.packageContent anchor resource = around.resourceInRoots resource last := by
  unfold Surroundings.beside at beside
  unfold packageContent
  split at beside
  next => cases beside; rfl
  next => cases beside; rfl
  next anchor filled =>
    cases found : around.anchorPackage? anchor with
    | error e =>
        rw [found] at beside
        cases beside
    | ok package? =>
        rw [found] at beside
        cases beside
        exact resourceInPackage_of_ok found resource

theorem packageContent_of_unloaded {anchor : Option String} {resource : String} {e : LoadError}
    (unloaded : around.beside anchor resource = .error e) :
    around.packageContent anchor resource = .error (.load e) := by
  unfold Surroundings.beside at unloaded
  unfold packageContent
  split at unloaded
  next => cases unloaded
  next => cases unloaded
  next anchor filled =>
    cases found : around.anchorPackage? anchor with
    | error e =>
        rw [found] at unloaded
        cases unloaded
        exact resourceInPackage_of_error found resource
    | ok package? =>
        rw [found] at unloaded
        cases unloaded

theorem classPathContent_eq (around : Surroundings) (anchor : Option String) (resource : String) :
    around.classPathContent anchor resource =
      (around.searchClassPath anchor resource).outcome around := by
  rw [classPathContent_eq_settle, searchClassPath]
  cases beside : around.beside anchor resource with
  | ok last =>
      rw [packageContent_of_beside beside, ← resourceInRoots_append]
      rfl
  | error e =>
      rw [packageContent_of_unloaded beside, Search.outcome]
      cases around.resourceInRoots resource around.roots with
      | error e => rfl
      | ok content? => cases content? <;> rfl

theorem anchorPackage?_eq_error_iff {anchor : String} {e : LoadError} :
    around.anchorPackage? anchor = .error e ↔ around.library.Breaks anchor e := by
  constructor
  · intro failed
    rw [anchorPackage?] at failed
    cases loaded : around.library.load anchor with
    | error cause =>
        simp only [loaded] at failed
        cases absence : cause.isAbsence with
        | true =>
            rw [absence, if_pos rfl] at failed
            cases failed
        | false =>
            rw [absence, if_neg Bool.false_ne_true] at failed
            cases failed
            exact .itself loaded absence
    | ok found =>
        simp only [loaded] at failed
        cases inside : found.origin.holdsModules with
        | true =>
            rw [inside, if_pos rfl] at failed
            cases failed
        | false =>
            rw [inside, if_neg Bool.false_ne_true] at failed
            exact .package loaded inside failed
  · intro breaks
    cases breaks with
    | itself failed present => simp [anchorPackage?, failed, present]
    | package loaded inside failed => simp [anchorPackage?, loaded, inside, failed]

/-- A module that asks stands in the way if it breaks when it is loaded. -/
theorem beside_eq_error_iff {anchor : Option String} {resource : String} {e : LoadError} :
    around.beside anchor resource = .error e ↔
      ∃ name, anchor = some name ∧ name ≠ "" ∧ around.library.Breaks name e := by
  unfold Surroundings.beside
  split
  next => simp
  next => simp
  next name filled =>
    have named : name ≠ "" := filled
    have failed := @anchorPackage?_eq_error_iff around name e
    cases found : around.anchorPackage? name with
    | error cause =>
        rw [found, Except.error.injEq] at failed
        simp [Except.map, failed, named]
    | ok package? =>
        rw [found] at failed
        simp [Except.map, named, ← failed]

theorem locate_eq (around : Surroundings) (location : String) (anchor : Option String) :
    around.locate location anchor = (around.searchFor location anchor).outcome around := by
  rw [locate, searchFor]
  cases afterMark? classPathMark location with
  | none => exact fileContent_eq around _
  | some resource => exact classPathContent_eq around anchor _

theorem searchClassPath_failure {anchor : Option String} {resource : String} {e : LoadError}
    (failed : (around.searchClassPath anchor resource).failure = some e) :
    around.beside anchor resource = .error e := by
  rw [searchClassPath] at failed
  cases beside : around.beside anchor resource with
  | ok last =>
      rw [beside] at failed
      cases failed
  | error cause =>
      rw [beside] at failed
      cases failed
      rfl

theorem searchFor_failure {location : String} {anchor : Option String} {e : LoadError}
    (failed : (around.searchFor location anchor).failure = some e) :
    ∃ name, anchor = some name ∧ name ≠ "" ∧ around.library.Breaks name e := by
  rw [searchFor] at failed
  cases mark : afterMark? classPathMark location with
  | none =>
      rw [mark] at failed
      cases failed
  | some resource =>
      rw [mark] at failed
      exact beside_eq_error_iff.mp (searchClassPath_failure failed)

/-- A location can be looked up: its path is never too long, and the package of the module that asks
can be had or is absent. -/
structure Unobstructed (around : Surroundings) (location : String) (anchor : Option String) :
    Prop where
  short : ∀ directory ∈ (around.searchFor location anchor).directories,
    around.tree.lookup directory (around.searchFor location anchor).path ≠ .nameTooLong
  loads : ∀ name e, anchor = some name → name ≠ "" → ¬ around.library.Breaks name e

theorem Unobstructed.absent {location : String} {anchor : Option String} {e : StoreError}
    (unobstructed : around.Unobstructed location anchor)
    (ends : (around.searchFor location anchor).Ends around.tree (.error e)) :
    e = .config (around.searchFor location anchor).absent := by
  cases ends with
  | absent sought complete => rfl
  | unloaded sought failed =>
      obtain ⟨name, asks, named, breaks⟩ := searchFor_failure failed
      exact absurd breaks (unobstructed.loads name _ asks named)
  | nameTooLong sought =>
      cases sought with
      | nameTooLong order lacking long =>
          refine absurd long (unobstructed.short _ ?_)
          rw [order]
          exact List.mem_append_right _ List.mem_cons_self

end Surroundings

end ClientWiring
