import StorageCommands.Text.Display

/-!
# Packed registers

A register is an integer whose bits are shared out among fields. Bits outside every field are reserved: they are kept
by `RegisterField.set` and shown nowhere.
-/

namespace StorageCommands

/-- A bit range of a register, shown as an integer or, if it is a flag, as a truth value. -/
structure RegisterField where
  name : String
  offset : Nat
  width : Nat
  isFlag : Bool
  deriving DecidableEq, Repr

namespace RegisterField

/-- An integer field. -/
def number (name : String) (offset width : Nat) : RegisterField := ⟨name, offset, width, false⟩

def bit (name : String) (offset : Nat) : RegisterField := ⟨name, offset, 1, true⟩

/-- The value of the field. -/
def get (f : RegisterField) (raw : Nat) : Nat := (raw >>> f.offset) % (1 <<< f.width)

/-- Whether the field is not zero. -/
def test (f : RegisterField) (raw : Nat) : Bool := f.get raw ≠ 0

/-- The register with the field replaced by the low bits of a value. -/
def set (f : RegisterField) (raw value : Nat) : Nat :=
  raw - (f.get raw <<< f.offset) + (value % (1 <<< f.width)) <<< f.offset

def display (f : RegisterField) (raw : Nat) : String :=
  if f.isFlag then Display.bool (f.test raw) else toString (f.get raw)

end RegisterField

/-- A kind of register: its size in bytes and its fields. -/
structure RegisterLayout where
  name : String
  bytes : Nat
  fields : List RegisterField
  deriving Repr

/-- The field of a name. -/
def RegisterLayout.field? (layout : RegisterLayout) (name : String) : Option RegisterField :=
  layout.fields.find? fun f => f.name = name

/-- The text of a register: its fields in order. -/
def RegisterLayout.display (layout : RegisterLayout) (raw : Nat) : String :=
  Display.record layout.name (layout.fields.map fun f => (f.name, f.display raw))

end StorageCommands
