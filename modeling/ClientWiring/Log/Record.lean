import ClientWiring.Dictionary
import ClientWiring.Value.Basic
set_option autoImplicit false

/-! Log records and the fields they are written as. The five core fields come first; the audit data
of the record is merged over them, and the text of an error, if there is one, is written last. A
field that is written twice keeps its first place and its last value. -/

namespace ClientWiring

structure Level where
  number : Int
  name : String
  deriving DecidableEq, Repr, Inhabited

namespace Level

def notSet : Level := ⟨0, "NOTSET"⟩
def debug : Level := ⟨10, "DEBUG"⟩
def info : Level := ⟨20, "INFO"⟩
def warning : Level := ⟨30, "WARNING"⟩
def error : Level := ⟨40, "ERROR"⟩
def critical : Level := ⟨50, "CRITICAL"⟩

def named : List Level := [critical, error, warning, info, debug, notSet]

/-- The level of a number; one that has no name of its own is named by the number. -/
def ofNumber (number : Int) : Level :=
  (named.find? fun level => level.number == number).getD
    ⟨number, "Level " ++ toString number⟩

end Level

structure LogRecord where
  logger : String
  level : Level
  message : String
  audit : List (String × Value)
  error : Option String
  deriving Repr, Inhabited

namespace LogRecord

def coreFields (record : LogRecord) (timestamp clientPrefix : String) : Dictionary Value := [
  ("timestamp", .text timestamp), ("level", .text record.level.name),
  ("logger", .text record.logger), ("message", .text record.message),
  ("client_prefix", .text clientPrefix)]

def fields (record : LogRecord) (timestamp clientPrefix : String) : Dictionary Value :=
  let merged := (record.coreFields timestamp clientPrefix).merge record.audit
  match record.error with
  | some error => merged.insert "error" (.text error)
  | none => merged

end LogRecord

structure Emitted where
  record : LogRecord
  clientPrefix : String
  deriving Repr, Inhabited

end ClientWiring
