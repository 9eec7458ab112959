set_option autoImplicit false

/-! A tree of files and the paths into it. A path that begins with a slash starts at the root of the
tree. Any other path starts at a directory, which is itself known by its path from the home of the
tree. Empty parts and single points in a path mean nothing; a double point leads to the directory
above, and is followed when it is reached, so the directory before it has to exist. -/

namespace ClientWiring

inductive FileEntry where
  | file (content : List UInt8)
  | directory
  deriving DecidableEq, Repr, Inhabited

namespace FileEntry

def content? : FileEntry → Option (List UInt8)
  | file content => some content
  | directory => none

end FileEntry

/-- Every file and directory below the root, by the names that lead to it. -/
structure FileTree where
  entries : List (List String × FileEntry)
  /-- Where the paths start that do not start at the root. -/
  home : List String
  deriving Repr, Inhabited

namespace FileTree

def empty (home : List String) : FileTree := ⟨[], home⟩

/-- What stands at a place; the root itself is a directory. -/
def entry? (tree : FileTree) (place : List String) : Option FileEntry :=
  if place.isEmpty then some .directory else tree.entries.lookup place

def put (tree : FileTree) (place : List String) (entry : FileEntry) : FileTree :=
  if place.isEmpty then tree
  else
    { tree with
      entries := (tree.entries.filter fun known => known.1 != place) ++ [(place, entry)] }

def makeParents (tree : FileTree) (place : List String) : FileTree :=
  (List.range place.length).foldl
    (fun tree depth =>
      if (tree.entry? (place.take depth)).isSome then tree
      else tree.put (place.take depth) .directory)
    tree

def parts (path : String) : List String :=
  (path.splitOn "/").filter fun part => !part.isEmpty && part != "."

/-- What is gone through from the root, where a path is taken from the directory at `base`. -/
def steps (tree : FileTree) (base : List String) (path : String) : List String :=
  if path.startsWith "/" then parts path else tree.home ++ (base ++ parts path)

/-- The tree with an entry written at a path, and its directories. -/
def write (tree : FileTree) (path : String) (entry : FileEntry) : FileTree :=
  let place := tree.steps [] path
  match entry, tree.entry? place with
  | .directory, some .directory => tree
  | _, _ => (tree.makeParents place).put place entry

def ofEntries (home : List String) (entries : List (String × FileEntry)) : FileTree :=
  entries.foldl (fun tree entry => tree.write entry.1 entry.2) (empty home)

def maxName : Nat := 255

def pathLimit : Nat := 4096

inductive Found where
  | missing
  /-- A name on the way, or the whole path, is too long to be looked up. -/
  | nameTooLong
  | entry (place : List String) (entry : FileEntry)
  deriving DecidableEq, Repr

def walk (tree : FileTree) (place : List String) : List String → Found
  | [] =>
    match tree.entry? place with
    | some entry => .entry place entry
    | none => .missing
  | part :: rest =>
    match tree.entry? place with
    | some .directory =>
      if part = ".." then walk tree place.dropLast rest
      else if maxName < part.utf8ByteSize then .nameTooLong
      else walk tree (place ++ [part]) rest
    | _ => .missing

def asText (names : List String) : String :=
  if names.isEmpty then "." else "/".intercalate names

def joined (base : List String) (path : String) : String :=
  if path.startsWith "/" then "/" ++ "/".intercalate (parts path) else asText (base ++ parts path)

def lookup (tree : FileTree) (base : List String) (path : String) : Found :=
  if path.toList.contains '\x00' then .missing
  else if pathLimit ≤ (joined base path).utf8ByteSize then .nameTooLong
  else tree.walk [] (tree.steps base path)

def standing? (tree : FileTree) (base : List String) : Option FileEntry :=
  match tree.walk [] (tree.home ++ base) with
  | .entry _ entry => some entry
  | _ => none

def names (tree : FileTree) (base : List String) : List String :=
  match tree.walk [] (tree.home ++ base) with
  | .entry place .directory =>
    tree.entries.filterMap fun entry =>
      if entry.1.length = place.length + 1 && entry.1.take place.length == place then
        entry.1.getLast?
      else none
  | _ => []

def asksForDirectory (path : String) : Bool :=
  ["", "."].contains ((path.splitOn "/").getLastD "")

def read? (tree : FileTree) (path : String) : Option (List UInt8) :=
  if asksForDirectory path then none
  else
    match tree.lookup [] path with
    | .entry _ entry => entry.content?
    | _ => none

end FileTree

end ClientWiring
