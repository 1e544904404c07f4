import StorageCommands.Bytes

/-!
# Field specifications

A field of a byte string is an integer under a mask, a byte range, or a bit range. `stop` is one past the last byte
that a field touches, and `maxValue` the largest integer it holds.

The constructors admit some fields that mean nothing, such as an empty mask. The functions that build a
specification step by step (`masked`, `range`, `bitRange`, `flag`, `withOrder`, `asText`) refuse those, and
`WellFormed` says which fields they build.
-/

namespace StorageCommands.Layout

/-- How the bytes of a range are read. -/
inductive Transform
  /-- As they stand. -/
  | raw
  /-- As an integer, least significant byte first. -/
  | littleEndian
  /-- As an integer, most significant byte first. -/
  | bigEndian
  /-- As text filled up with NULs or spaces. -/
  | text
  deriving DecidableEq, Repr

namespace Transform

/-- The byte order of an integer range. -/
def order? : Transform → Option ByteOrder
  | littleEndian => some .little
  | bigEndian => some .big
  | raw | text => none

/-- The transform of an integer range stored in a byte order. -/
def ofOrder : ByteOrder → Transform
  | .little => littleEndian
  | .big => bigEndian

end Transform

/-- Where a field lies and how it is read. -/
inductive Spec
  /-- The bits that `mask` selects in an integer stored from a byte offset on. -/
  | mask (offset mask : Nat) (order : ByteOrder)
  /-- A range of bytes. -/
  | bytes (offset len : Nat) (transform : Transform)
  /-- A range of bits, numbered from the lowest bit of the first byte. -/
  | bits (offset width : Nat)
  deriving DecidableEq, Repr

/-! ## Masks -/

/-- The number of binary digits of an integer. -/
def bitLength (n : Nat) : Nat := if n = 0 then 0 else n.log2 + 1

/-- The number of bytes from the lowest one to the highest bit of a mask. -/
def maskWidth (mask : Nat) : Nat := (bitLength mask + 7) / 8

/-- How many of the low bits of an integer are zero before its lowest set bit; zero for the integer zero. -/
def trailingZeros (n : Nat) : Nat :=
  if n = 0 ∨ n % 2 = 1 then 0 else trailingZeros (n / 2) + 1
termination_by n
decreasing_by omega

/-- The largest integer with a number of binary digits. -/
def widthMax (bits : Nat) : Nat := (1 <<< bits) - 1

namespace Spec

/-- One past the last byte that the field touches. -/
def stop : Spec → Nat
  | mask offset m _ => offset + maskWidth m
  | bytes offset len _ => offset + len
  | bits offset width => (offset + width + 7) / 8

/-- The largest integer that the field holds, if it holds integers. -/
def maxValue : Spec → Option Nat
  | mask _ m _ => some (m >>> trailingZeros m)
  | bytes _ len transform => transform.order?.map fun _ => widthMax (8 * len)
  | bits _ width => some (widthMax width)

/-! ## Building a specification -/

/-- Why a specification cannot be built. -/
inductive Fault
  /-- A mask that selects nothing. -/
  | emptyMask
  /-- A bit range of no bits or of more than 64. -/
  | bitWidth
  /-- An integer of more than 8 bytes. -/
  | integerLength
  /-- A byte order for a bit range. -/
  | orderedBits
  /-- Text in a field that is no byte range. -/
  | textOutsideRange
  deriving DecidableEq, Repr

def Fault.message : Fault → String
  | emptyMask => "mask fields need at least one bit"
  | bitWidth => "bit fields are 1 to 64 bits wide"
  | integerLength => "integer byte fields are at most 8 bytes"
  | orderedBits => "bit fields are always little endian"
  | textOutsideRange => "only byte fields carry text"

/-- The bits under a mask, most significant byte first. -/
def masked (offset m : Nat) : Except Fault Spec :=
  if m = 0 then .error .emptyMask else .ok (.mask offset m .big)

/-- A range of bytes as they stand. -/
def range (offset len : Nat) : Except Fault Spec := .ok (.bytes offset len .raw)

/-- A range of bits. -/
def bitRange (offset width : Nat) : Except Fault Spec :=
  if 1 ≤ width ∧ width ≤ 64 then .ok (.bits offset width) else .error .bitWidth

def flag (offset : Nat) : Except Fault Spec := bitRange offset 1

/-- The same field, its integer stored in a byte order. -/
def withOrder (order : ByteOrder) : Spec → Except Fault Spec
  | mask offset m _ => .ok (.mask offset m order)
  | bytes offset len _ =>
    if len ≤ 8 then .ok (.bytes offset len (Transform.ofOrder order)) else .error .integerLength
  | bits .. => .error .orderedBits

/-- The same byte range, read as text. -/
def asText : Spec → Except Fault Spec
  | bytes offset len _ => .ok (.bytes offset len .text)
  | mask .. | bits .. => .error .textOutsideRange

/-- The fields that mean something: a mask selects a bit, an integer range has at most 8 bytes, and a bit range has 1
to 64 bits. -/
def WellFormed : Spec → Prop
  | mask _ m _ => 0 < m
  | bytes _ len transform => transform.order? = none ∨ len ≤ 8
  | bits _ width => 1 ≤ width ∧ width ≤ 64

instance (s : Spec) : Decidable s.WellFormed := by
  cases s <;> unfold WellFormed <;> infer_instance

end Spec

end StorageCommands.Layout
