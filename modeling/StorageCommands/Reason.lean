/-!
# Reasons

Errors report themselves as a chain of reasons: the error first, then what caused it, the nearest cause first.
-/

namespace StorageCommands

/-- What an error reports: the name of its kind, and its text. -/
structure Reason where
  kind : String
  message : String
  deriving DecidableEq, Repr

/-- A chain of reasons as the value of a log event: the text of the error, then the texts of its causes under `name`. -/
def Reason.logText (name : String) : List Reason → String
  | [] => ""
  | [e] => e.message
  | e :: causes => e.message ++ " " ++ name ++ ".sources=[" ++ ", ".intercalate (causes.map message) ++ "]"

end StorageCommands
