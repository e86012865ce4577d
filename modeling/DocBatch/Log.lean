import DocBatch.Json.Value

/-!
# Log events

The engine reports what it does as events: a level, a message, and named fields whose values
are numbers, booleans or texts. Events are kept in the order they are emitted.
-/

namespace DocBatch

/-- How important an event is. -/
inductive Level where
  | trace
  | debug
  | info
  | warn
  | error
  deriving Repr, DecidableEq, Inhabited

/-- The name of a level, in capitals. -/
def Level.name : Level → String
  | .trace => "TRACE"
  | .debug => "DEBUG"
  | .info => "INFO"
  | .warn => "WARN"
  | .error => "ERROR"

/-- One log event. -/
structure Event where
  level : Level
  message : String
  fields : List (String × Json.Value) := []
  deriving Repr, Inhabited

end DocBatch
