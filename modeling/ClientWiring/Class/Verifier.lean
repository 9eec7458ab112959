import ClientWiring.Class.Basic
set_option autoImplicit false

/-! Verifiers of host names: the class that verifiers are derived from, which has no instances, and
the verifier that accepts every host. -/

namespace ClientWiring.Verifier

def module : String := "restclient.runtime.registry"

def noopRegisteredName : String := "restclient.NoopHostnameVerifier"

def abstractMetaclass : ClassName := ⟨"abc", ["ABCMeta"]⟩

def abstractError (name : ClassName) : Thrown :=
  ⟨"TypeError",
    "Can't instantiate abstract class " ++ name.short ++ " with abstract method verify"⟩

def abstractClass (name : ClassName) : ClassInfo where
  name := name
  metaclass := abstractMetaclass
  parameters := .known []
  construct := .error (abstractError name)

def base : ClassInfo := abstractClass ⟨module, ["HostnameVerifier"]⟩

def ofVerdict (name : ClassName) (verdict : String → Value → Except Thrown Value) : ClassInfo where
  name := name
  metaclass := abstractMetaclass
  parameters := .known []
  construct := .ok ⟨name, none, none, .function verdict⟩

def noop : ClassInfo :=
  ofVerdict ⟨module, ["NoopHostnameVerifier"]⟩ fun _ _ => .ok (.bool true)

end ClientWiring.Verifier
