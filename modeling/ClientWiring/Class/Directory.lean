import ClientWiring.Class.Library
import ClientWiring.Files.Tree
set_option autoImplicit false

/-! Modules found in directories. The search goes through a list of directories in order: a
directory with an initial file is a package, a file with the module's name is a module, and a
directory without an initial file becomes one part of a namespace package, unless a later directory
has the real thing. Modules in files hold no classes. -/

namespace ClientWiring.Library

def initialFile : String := "__init__.py"

def moduleEnding : String := ".py"

inductive Portion where
  | nothing
  | package (directory : List String)
  | leaf
  | part (directory : List String)

def portion (tree : FileTree) (directory : List String) (name : String) : Portion :=
  let inner := directory ++ [name]
  match tree.standing? inner, tree.standing? (inner ++ [initialFile]),
      tree.standing? (directory ++ [name ++ moduleEnding]) with
  | some .directory, some (.file _), _ => .package inner
  | _, _, some (.file _) => .leaf
  | some .directory, _, _ => .part inner
  | _, _, _ => .nothing

/-- What a name means in directories searched in order, and the directories to search further
down. -/
def search (tree : FileTree) (name : String) :
    List (List String) → List (List String) → Option (ModuleOrigin × List (List String))
  | [], [] => none
  | parts, [] => some (.namespacePackage, parts)
  | parts, directory :: rest =>
    match portion tree directory name with
    | .package inner => some (.package, [inner])
    | .leaf => some (.leaf, [])
    | .part inner => search tree name (parts ++ [inner]) rest
    | .nothing => search tree name parts rest

/-- The origin and the directories of the module at a path, searched from given directories. -/
def searchPath (tree : FileTree) (found : ModuleOrigin × List (List String)) :
    List String → Option (ModuleOrigin × List (List String))
  | [] => some found
  | name :: rest =>
    match search tree name [] found.2 with
    | some inner => searchPath tree inner rest
    | none => none

/-- The modules of a library together with those found below root directories. A module whose
outermost package the library knows is never searched for. -/
def withDirectories (library : Library) (tree : FileTree) (roots : List (List String)) :
    Library where
  find path :=
    match path with
    | [] => .error .notFound
    | top :: _ =>
      match library.find [top] with
      | .ok _ => library.find path
      | .error _ =>
        match searchPath tree (.namespacePackage, roots) path with
        | some (origin, directories) =>
          .ok ⟨".".intercalate path, origin, directories, []⟩
        | none => .error .notFound

end ClientWiring.Library
