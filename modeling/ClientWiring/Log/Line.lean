import ClientWiring.Json.Writer
import ClientWiring.Log.Record
import ClientWiring.Log.Template
import ClientWiring.Log.Timestamp
set_option autoImplicit false

/-! From an event to the line that is written for it: the time and the message are put into words,
and the record is written as an object of one line. -/

namespace ClientWiring

/-- The text of an error that was raised with arguments: the argument, if there is one, and a list
of them, if there are several. Where the kind of the error names a key, the argument is quoted. -/
def raisedText [Runtime] (namesKey : Bool) : List Value → Except WriteError String
  | [] => .ok ""
  | [value] => if namesKey then value.givenLiteral else value.givenPlain
  | values => (Value.tuple values).givenPlain

structure LogEvent where
  /-- When it happened, in seconds since the start of 1970. -/
  created : Value
  level : Level
  logger : String
  template : String
  arguments : List Value
  audit : List (String × Value)
  error : Option String
  deriving Repr, Inhabited

inductive LineError where
  | time (error : TimeError)
  | message (error : Template.FillError)
  | refused (error : WriteError)
  deriving DecidableEq, Repr

namespace LineError

def text : LineError → String
  | time error => error.message
  | message error => error.message
  | refused error => error.message

end LineError

variable [Runtime]

namespace LogRecord

def line (record : LogRecord) (timestamp clientPrefix : String) : Except WriteError String :=
  Json.render (.dict (record.fields timestamp clientPrefix))

end LogRecord

namespace LogEvent

def record (event : LogEvent) : Except Template.FillError LogRecord :=
  (Template.fill event.template event.arguments).map fun message =>
    ⟨event.logger, event.level, message, event.audit, event.error⟩

def line (event : LogEvent) (clientPrefix : String) : Except LineError String := do
  let timestamp ← ((Timestamp.ofValue event.created).bind Timestamp.text).mapError LineError.time
  let record ← event.record.mapError LineError.message
  (record.line timestamp clientPrefix).mapError LineError.refused

end LogEvent

end ClientWiring
