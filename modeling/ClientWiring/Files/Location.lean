import ClientWiring.Class.Directory
import ClientWiring.Config.Error
set_option autoImplicit false

/-! Locations of stores. A location on the class path names a resource, which is looked for below
every root and then beside the module that asks for it; any other location is a path. -/

namespace ClientWiring

inductive StoreError where
  | config (error : ConfigError)
  /-- The module that asks cannot be loaded, in a way that is no absence. -/
  | load (error : LoadError)
  | nameTooLong (path : String)
  /-- A library fails on the content otherwise than by refusing it. -/
  | thrown (error : Thrown)
  deriving DecidableEq, Repr

namespace StoreError

def message : StoreError → String
  | config error => error.message
  | load error => error.message
  | nameTooLong path => "[Errno 36] File name too long: '" ++ path ++ "'"
  | thrown error => error.text

end StoreError

structure Surroundings where
  tree : FileTree
  /-- The directories that are searched first, in order, by their paths from the home. -/
  roots : List (List String)
  library : Library

namespace Surroundings

def within (library : Library) (tree : FileTree) (roots : List (List String)) : Surroundings :=
  ⟨tree, roots, library.withDirectories tree roots⟩

/-- The package that holds a module; a package holds itself. -/
def anchorPackage? (around : Surroundings) (anchor : String) :
    Except LoadError (Option Module) :=
  match around.library.load anchor with
  | .error e => if e.isAbsence then .ok none else .error e
  | .ok module =>
    if module.origin.holdsModules then .ok (some module)
    else around.library.packageNamed? (Library.packageName module)

/-- The path of a resource in a package. In a namespace package a name that stands in one of the
directories is found there; any other path is taken from the first of them. -/
def resourceBase (around : Surroundings) (package : Module) (resource : String) :
    Option (List String) :=
  match package.directories.find? fun directory =>
      (around.tree.names directory).contains resource with
  | some directory => some directory
  | none => package.directories.head?

def contentAt (found : FileTree.Found) (path : String) :
    Except StoreError (Option (List UInt8)) :=
  match found with
  | .missing => .ok none
  | .nameTooLong => .error (.nameTooLong path)
  | .entry _ entry => .ok entry.content?

def resourceInRoots (around : Surroundings) (resource : String) :
    List (List String) → Except StoreError (Option (List UInt8))
  | [] => .ok none
  | root :: rest =>
    match contentAt (around.tree.lookup root resource) (FileTree.joined root resource) with
    | .error e => .error e
    | .ok (some content) => .ok (some content)
    | .ok none => resourceInRoots around resource rest

def resourceInPackage (around : Surroundings) (anchor resource : String) :
    Except StoreError (Option (List UInt8)) :=
  match around.anchorPackage? anchor with
  | .error e => .error (.load e)
  | .ok none => .ok none
  | .ok (some package) =>
    match around.resourceBase package resource with
    | none => .ok none
    | some base =>
      contentAt (around.tree.lookup base resource) (FileTree.joined base resource)

def classPathContent (around : Surroundings) (anchor : Option String) (resource : String) :
    Except StoreError (List UInt8) :=
  match around.resourceInRoots resource around.roots with
  | .error e => .error e
  | .ok (some content) => .ok content
  | .ok none =>
    let inPackage : Except StoreError (Option (List UInt8)) :=
      match anchor with
      | none | some "" => .ok none
      | some anchor => around.resourceInPackage anchor resource
    match inPackage with
    | .error e => .error e
    | .ok (some content) => .ok content
    | .ok none => .error (.config (.resourceNotFound resource))

def classPathMark : String := "classpath:"

def fileMark : String := "file:"

def afterMark? (mark text : String) : Option String :=
  if text.startsWith mark then some (String.ofList (text.toList.drop mark.length)) else none

def fileContent (around : Surroundings) (path : String) : Except StoreError (List UInt8) :=
  match contentAt (around.tree.lookup [] path) (FileTree.joined [] path) with
  | .error e => .error e
  | .ok (some content) => .ok content
  | .ok none => .error (.config (.fileNotFound path))

def locate (around : Surroundings) (location : String) (anchor : Option String) :
    Except StoreError (List UInt8) :=
  match afterMark? classPathMark location with
  | some resource =>
    around.classPathContent anchor (String.ofList (resource.toList.dropWhile (· == '/')))
  | none => around.fileContent ((afterMark? fileMark location).getD location)

end Surroundings

end ClientWiring
