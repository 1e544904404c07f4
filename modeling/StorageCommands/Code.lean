import StorageCommands.Text.Display

/-!
# Named codes

A family of numeric codes, some of which have names. A code shows as its bare name; one without a name shows as the
family with the number.
-/

namespace StorageCommands

/-- A family of numeric codes. -/
structure CodeFamily where
  name : String
  names : List (Nat × String)
  deriving Repr

def CodeFamily.display (family : CodeFamily) (code : Nat) : String :=
  match family.names.lookup code with
  | some name => name
  | none => Display.applied family.name (toString code)

end StorageCommands
