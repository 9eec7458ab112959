import ClientWiring.Class.Basic
set_option autoImplicit false

/-! Modules and what they hold. A module is found by its dotted name, and its parents are loaded
before it. Loading can fail in three ways: the module is not there, it breaks with a bad value, or
it breaks otherwise; a name that is empty or starts with a point is no absolute name at all. -/

namespace ClientWiring

inductive Member where
  | cls (info : ClassInfo)
  /-- An object that is no class, of the named class. -/
  | object (type : ClassName)

inductive ModuleOrigin where
  /-- A package: a module that holds modules. -/
  | package
  /-- A package without code of its own, found in several directories. -/
  | namespacePackage
  /-- A module in a package, or at the top. -/
  | leaf
  /-- A module that no search has found, such as the program itself, and the package that it says it
  is in. -/
  | unsearched (package : Option String)
  deriving DecidableEq, Repr

namespace ModuleOrigin

def holdsModules : ModuleOrigin → Bool
  | package | namespacePackage => true
  | leaf | unsearched _ => false

end ModuleOrigin

structure Module where
  name : String
  origin : ModuleOrigin
  /-- The directories of a package, where its resources are. -/
  directories : List (List String)
  /-- What the module holds, by path. -/
  members : List (List String × Member)

inductive LoadError where
  | notFound
  | emptyName
  | relativeName (name : String)
  | failed (thrown : Thrown)
  deriving DecidableEq, Repr

namespace LoadError

def message : LoadError → String
  | notFound => "No such module"
  | emptyName => "Empty module name"
  | relativeName name =>
    "the 'package' argument is required to perform a relative import for '" ++ name ++ "'"
  | failed thrown => thrown.text

def isAbsence : LoadError → Bool
  | notFound => true
  | emptyName | relativeName _ => false
  | failed thrown => thrown.kind == "ImportError"

def lacksPackage : LoadError → Bool
  | notFound | emptyName | relativeName _ => true
  | failed thrown => thrown.kind == "ModuleNotFoundError" || thrown.kind == "TypeError"

/-- Whether an error says that a module cannot be had: it is not there, or a value is bad. -/
def isMissing : LoadError → Bool
  | notFound | emptyName => true
  | relativeName _ => false
  | failed thrown => thrown.kind == "ImportError" || thrown.kind == "ValueError"

end LoadError

/-- A source of modules: what each absolute name stands for, its parents apart. -/
structure Library where
  find : List String → Except LoadError Module

namespace Library

def parts (name : String) : List String :=
  (name.toList.splitOn '.').map String.ofList

/-- The name of the package that a module is in, which is empty at the top. A package names
itself. -/
def packageName (module : Module) : String :=
  match module.origin with
  | .package | .namespacePackage => module.name
  | .leaf => ".".intercalate (parts module.name).dropLast
  | .unsearched stated => stated.getD ""

def loadFrom (library : Library) (parent : List String) (holder : Option Module) :
    List String → Except LoadError (Option Module)
  | [] => .ok holder
  | part :: rest =>
    if holder.any fun found => !found.origin.holdsModules then .error .notFound
    else
      match library.find (parent ++ [part]) with
      | .error e => .error e
      | .ok found => loadFrom library (parent ++ [part]) (some found) rest

def load (library : Library) (name : String) : Except LoadError Module :=
  if name.isEmpty then .error .emptyName
  else if name.startsWith "." then .error (.relativeName name)
  else
    match loadFrom library [] none (parts name) with
    | .error e => .error e
    | .ok (some found) => .ok found
    | .ok none => .error .notFound

/-- The error of asking a module that no search has found whether it is a package. -/
def unsearchedPackage : LoadError :=
  .failed ⟨"AttributeError", "'NoneType' object has no attribute 'submodule_search_locations'"⟩

def packageNamed? (library : Library) (name : String) : Except LoadError (Option Module) :=
  match library.load name with
  | .error e => if e.lacksPackage then .ok none else .error e
  | .ok package =>
    match package.origin with
    | .package | .namespacePackage => .ok (some package)
    | .leaf => .ok none
    | .unsearched _ => .error unsearchedPackage

def moduleClass : ClassName := ⟨"builtins", ["module"]⟩

def classClass : ClassName := ⟨"builtins", ["type"]⟩

/-- A place reached by following attributes. -/
inductive Place where
  /-- In a module, at a path that may be empty. -/
  | within (module : Module) (path : List String)
  | typeOf (name : ClassName)

def classAttribute : String := "__class__"

def attribute? (library : Library) (place : Place) (name : String) : Option Place :=
  match place with
  | .typeOf _ => if name == classAttribute then some (.typeOf classClass) else none
  | .within module [] =>
    if name == classAttribute then some (.typeOf moduleClass)
    else if (module.members.lookup [name]).isSome then some (.within module [name])
    else
      match library.load (module.name ++ "." ++ name) with
      | .ok inner => some (.within inner [])
      | .error _ => none
  | .within module path =>
    if name == classAttribute then
      (module.members.lookup path).map fun member =>
        match member with
        | .cls info => .typeOf info.metaclass
        | .object type => .typeOf type
    else if (module.members.lookup (path ++ [name])).isSome then
      some (.within module (path ++ [name]))
    else none

/-- The class of a name among the classes that are reached through instances only. -/
def builtinType (name : ClassName) : ClassInfo where
  name := name
  metaclass := classClass
  parameters :=
    if name = classClass then .unknown else .known [⟨.positionalOrKeyword, false⟩]
  construct := .error ⟨"TypeError",
    if name = classClass then "type() takes 1 or 3 arguments"
    else name.short ++ "() missing required argument"⟩

def classAt? (library : Library) (place : Place) : Option ClassInfo :=
  match place with
  | .within _ [] => none
  | .within module path =>
    match module.members.lookup path with
    | some (.cls info) => some info
    | _ => none
  | .typeOf name =>
    match library.load name.module with
    | .ok module =>
      match module.members.lookup name.path with
      | some (.cls info) => some info
      | _ => some (builtinType name)
    | .error _ => some (builtinType name)

def classOf? (library : Library) (module : Module) (attributes : List String) :
    Option ClassInfo :=
  (attributes.foldlM (library.attribute?) (Place.within module [])).bind library.classAt?

end Library

end ClientWiring
