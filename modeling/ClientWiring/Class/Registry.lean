import ClientWiring.Class.Library
import ClientWiring.Class.Verifier
import ClientWiring.Dictionary
import ClientWiring.Text.Blank
set_option autoImplicit false

/-! Finding a class by a configured name. A registered name comes first, with the class that was
registered last. Any other name leads through modules: with a colon it names the module exactly,
without one the longest prefix that can be loaded is the module and the rest leads to the class. -/

namespace ClientWiring

abbrev Registry := Dictionary ClassInfo

inductive Registration where
  | register (name : String) (info : ClassInfo)
  | unregister (name : String)

inductive ResolveError where
  /-- The name, without blanks around it, leads nowhere. -/
  | unresolved (name : String)
  | failed (cause : LoadError)
  deriving DecidableEq, Repr

namespace Registry

def initial : Registry := [(Verifier.noopRegisteredName, Verifier.noop)]

def apply (registry : Registry) : Registration → Registry
  | .register name info => Dictionary.insert registry name info
  | .unregister name => Dictionary.erase registry name

def resolveIn (library : Library) (module : String) (attributes : List String) (name : String) :
    Except ResolveError ClassInfo :=
  match library.load module with
  | .error e => if e.isMissing then .error (.unresolved name) else .error (.failed e)
  | .ok found =>
    match library.classOf? found attributes with
    | some info => .ok info
    | none => .error (.unresolved name)

/-- The class of a dotted name whose first `split` parts may be a module; shorter modules are tried
after longer ones. -/
def resolveDotted (library : Library) (parts : List String) (name : String) :
    Nat → Except ResolveError ClassInfo
  | 0 => .error (.unresolved name)
  | split + 1 =>
    let module := ".".intercalate (parts.take (split + 1))
    match library.load module with
    | .ok _ => resolveIn library module (parts.drop (split + 1)) name
    | .error e =>
      if e.isMissing then resolveDotted library parts name split else .error (.failed e)

def splitColon? (name : String) : Option (String × String) :=
  let before := name.toList.takeWhile (· != ':')
  match name.toList.dropWhile (· != ':') with
  | ':' :: after => some (String.ofList before, String.ofList after)
  | _ => none

def resolve (registry : Registry) (library : Library) (configured : String) :
    Except ResolveError ClassInfo :=
  let name := Text.trim configured
  match registry.get? name with
  | some info => .ok info
  | none =>
    match splitColon? name with
    | some (module, path) =>
      let attributes := Library.parts path
      if module.isEmpty || attributes.any String.isEmpty then .error (.unresolved name)
      else resolveIn library module attributes name
    | none =>
      let parts := Library.parts name
      if parts.any String.isEmpty then .error (.unresolved name)
      else resolveDotted library parts name (parts.length - 1)

end Registry

end ClientWiring
