/-!
# Log events

What the library reports while it works: a level, the target that reports, a message, and named values.
-/

namespace StorageCommands.Trace

/-- How important an event is, the most important first. -/
inductive Level
  | error
  | warn
  | info
  | debug
  | trace
  deriving DecidableEq, Repr

/-- How much has to be switched on for a level to show. -/
def Level.verbosity : Level → Nat
  | error => 1
  | warn => 2
  | info => 3
  | debug => 4
  | trace => 5

/-- A level in five columns, aligned to the right. -/
def Level.label : Level → String
  | error => "ERROR"
  | warn => " WARN"
  | info => " INFO"
  | debug => "DEBUG"
  | trace => "TRACE"

/-- A log event; the values are in order, each with its text. -/
structure Event where
  level : Level
  target : String
  message : String
  values : List (String × String) := []
  deriving DecidableEq, Repr

def Event.line (e : Event) : String :=
  let values := e.values.map fun (name, value) => " " ++ name ++ "=" ++ value
  e.level.label ++ " " ++ e.target ++ ": " ++ e.message ++ String.join values

end StorageCommands.Trace
