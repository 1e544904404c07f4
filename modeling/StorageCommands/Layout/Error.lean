import StorageCommands.Reason
import StorageCommands.Text.Number

/-!
# Field errors

Why a field cannot be read from a buffer or a value cannot be stored in it.
-/

namespace StorageCommands.Layout

/-- Why a field cannot be read or written. -/
inductive Error
  /-- The field reaches past the end of the buffer. -/
  | bufferTooSmall (field : String) (stop len : Nat)
  /-- The integer is larger than the field holds. -/
  | valueTooLarge (field : String) (value max : Nat)
  /-- The field does not hold values of this kind. -/
  | typeMismatch (field : String)
  deriving DecidableEq, Repr

namespace Error

def kind : Error → String
  | bufferTooSmall .. => "BufferTooSmall"
  | valueTooLarge .. => "ValueTooLarge"
  | typeMismatch .. => "TypeMismatch"

def message : Error → String
  | bufferTooSmall field stop len =>
    "field " ++ field ++ " ends at byte " ++ toString stop ++ " but the buffer is " ++ toString len ++ " bytes"
  | valueTooLarge field value max =>
    "value " ++ Number.hex value ++ " does not fit in field " ++ field ++ " (max " ++ Number.hex max ++ ")"
  | typeMismatch field => "field " ++ field ++ " cannot store a value of this kind"

def chain (e : Error) : List Reason := [⟨e.kind, e.message⟩]

end Error

end StorageCommands.Layout
