import ClientWiring.Http.Headers
import ClientWiring.Thrown
import ClientWiring.Value.Basic
set_option autoImplicit false

/-! Classes of the embedding application, as far as a client uses them: as providers, which filter
requests and responses, and as verifiers of host names. What application code does is a function; it
may fail with an error of its own kind. -/

namespace ClientWiring

structure ClassName where
  module : String
  path : List String
  deriving DecidableEq, Repr, Inhabited

namespace ClassName

def qualified (name : ClassName) : String :=
  ".".intercalate name.path

def full (name : ClassName) : String :=
  name.module ++ "." ++ name.qualified

def short (name : ClassName) : String :=
  name.path.getLastD ""

end ClassName

/-- A filter of requests. It sees the method and the header fields, and leaves header fields unless it
fails, and notes in any case. An asynchronous one is a coroutine function. -/
structure RequestFilter where
  asynchronous : Bool
  run : String → Headers → Except Thrown Headers × List String

/-- A filter of responses. It sees the status and leaves notes, also when it fails. -/
structure ResponseFilter where
  asynchronous : Bool
  run : Nat → Except Thrown Unit × List String

inductive Verifying where
  | absent
  | notCallable (typeName : String)
  /-- A function of the host and the peer's certificate; its verdict counts by its truth. -/
  | function (verdict : String → Value → Except Thrown Value)

structure Instance where
  className : ClassName
  requestFilter : Option RequestFilter
  responseFilter : Option ResponseFilter
  verifying : Verifying

namespace Instance

def verify (object : Instance) (host : String) (certificate : Value) : Except Thrown Value :=
  match object.verifying with
  | .absent =>
    .error ⟨"AttributeError",
      "'" ++ object.className.short ++ "' object has no attribute 'verify'"⟩
  | .notCallable typeName => .error ⟨"TypeError", "'" ++ typeName ++ "' object is not callable"⟩
  | .function verdict => verdict host certificate

end Instance

/-- How a parameter takes its argument. A variadic one takes any number of them. -/
inductive ParameterKind where
  | positionalOnly
  | positionalOrKeyword
  | variadicPositional
  | keywordOnly
  | variadicKeyword
  deriving DecidableEq, Repr

namespace ParameterKind

def isVariadic : ParameterKind → Bool
  | variadicPositional | variadicKeyword => true
  | positionalOnly | positionalOrKeyword | keywordOnly => false

end ParameterKind

structure Parameter where
  kind : ParameterKind
  hasDefault : Bool
  deriving DecidableEq, Repr

namespace Parameter

def isOptional (parameter : Parameter) : Bool :=
  parameter.hasDefault || parameter.kind.isVariadic

end Parameter

/-- What is known of the parameters of a constructor: nothing where its signature cannot be read. -/
inductive Parameters where
  | unknown
  | known (parameters : List Parameter)
  deriving DecidableEq, Repr

structure ClassInfo where
  name : ClassName
  metaclass : ClassName
  parameters : Parameters
  construct : Except Thrown Instance

namespace ClassInfo

/-- Whether the constructor can be called without arguments, as far as is known. -/
def takesNoArguments (info : ClassInfo) : Bool :=
  match info.parameters with
  | .unknown => true
  | .known parameters => parameters.all Parameter.isOptional

end ClassInfo

end ClientWiring
