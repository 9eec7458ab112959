import ClientWiring.Log.Record
import ClientWiring.Wiring.Call
set_option autoImplicit false

/-! Running a construction: steps that tell a builder what to build, then the building. While it
runs the prefix of its client is in force, and the one before is in force again when it ends,
however it ends. A refused configuration is logged while the prefix is in force, a success after it;
any other failure passes without a record. -/

namespace ClientWiring

/-- What a construction changes: the prefix in force, the records emitted, and the builder. -/
structure Scene (β : Type) where
  clientPrefix : String
  log : List Emitted
  builder : β

abbrev Step (β α : Type) := ExceptT WiringError (StateM (Scene β)) α

namespace Step

variable {β ρ : Type}

def fail {α : Type} (error : WiringError) : Step β α :=
  throw error

def ofExcept {ε α : Type} (toError : ε → WiringError) (result : Except ε α) : Step β α :=
  match result with
  | .ok a => pure a
  | .error e => fail (toError e)

def tell [ClientBuilder β ρ] (call : BuilderCall) : Step β Unit := do
  let scene ← get
  let builder ← ofExcept id (ClientBuilder.apply call scene.builder)
  set { scene with builder := builder }

def build [ClientBuilder β ρ] (interface : ClientInterface) : Step β ρ := do
  let scene ← get
  let (result, builder) ← ofExcept id (ClientBuilder.build interface scene.builder)
  set { scene with builder := builder }
  pure result

end Step

/-- What the records of a construction say about its client. -/
structure Audit where
  owner : String
  interface : String
  variant : String
  typedConfig : Bool
  deriving DecidableEq, Repr

namespace Audit

def fields (audit : Audit) : List (String × Value) := [
  ("prefix", .text audit.owner), ("interface", .text audit.interface),
  ("variant", .text audit.variant), ("typed_config", .bool audit.typedConfig)]

def logger : String := "restclient"

def failureRecord (audit : Audit) (error : ConfigError) : LogRecord :=
  ⟨logger, .error, "REST client configuration failed", audit.fields, some error.message⟩

def successRecord (audit : Audit) (elapsed : Double) : LogRecord :=
  ⟨logger, .info, "REST client built",
    Dictionary.insert audit.fields "latency_ms" (.float elapsed), none⟩

end Audit

/-- Runs steps in order and then the building, for a client. -/
def construct {β ρ : Type} (audit : Audit) (elapsed : Double) (steps : List (Step β Unit))
    (build : Step β ρ) : Step β ρ := fun scene =>
  let body : Step β ρ := do
    steps.forM id
    build
  let (result, inner) := body.run { scene with clientPrefix := audit.owner }
  let after := { inner with clientPrefix := scene.clientPrefix }
  match result with
  | .ok built =>
    (.ok built,
      { after with log := after.log ++ [⟨audit.successRecord elapsed, after.clientPrefix⟩] })
  | .error (.config error) =>
    (.error (.config error),
      { after with log := after.log ++ [⟨audit.failureRecord error, inner.clientPrefix⟩] })
  | .error error => (.error error, after)

end ClientWiring
