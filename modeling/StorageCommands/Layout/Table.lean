import StorageCommands.Layout.Error
import StorageCommands.Layout.Spec
import StorageCommands.Layout.Value
import StorageCommands.Text.Padded

/-!
# Field tables

A table lists the fields of one kind of buffer. `Table.decode` reads all of them, in table order. `Table.encode`
checks every value first, in the order of the values, and then writes them in that order: masks are set on top of the
bits that are there, byte and bit ranges replace what they cover, and a short byte string leaves the rest of its
range as it was. A field that a table lists twice is looked up at its first entry.
-/

namespace StorageCommands.Layout

/-- Fields that have names for diagnostics. -/
class Named (ι : Type) where
  /-- The name of a field. -/
  name : ι → String

instance : Named String := ⟨id⟩

/-! ## One field -/

namespace Spec

/-- The value of a field whose bytes the buffer has. -/
def read (s : Spec) (buffer : Bytes) : Value :=
  match s with
  | mask offset m order =>
    .uint ((order.read (buffer.slice offset (maskWidth m)) &&& m) >>> trailingZeros m)
  | bytes offset len transform =>
    let range := buffer.slice offset len
    match transform with
    | .raw => .bytes range
    | .littleEndian => .uint (ByteOrder.little.read range)
    | .bigEndian => .uint (ByteOrder.big.read range)
    | .text => .text (Padded.ofBytes range)
  | bits offset width => .uint (buffer.readBits offset width)

/-- Whether a field stores values of this kind. -/
def accepts : Spec → Value → Bool
  | mask .., .uint _ => true
  | bits .., .uint _ => true
  | bytes _ _ transform, .uint _ => transform.order?.isSome
  | bytes .., .bytes _ => true
  | bytes _ _ transform, .text _ => transform.order?.isNone
  | _, _ => false

/-- Puts a byte string over the start of a range. -/
def copyInto (buffer : Bytes) (offset len : Nat) (new : Bytes) : Bytes :=
  buffer.overwrite offset (new.take len)

/-- Stores a value that the field accepts; the buffer keeps its length and every byte outside the field. -/
def write (s : Spec) (v : Value) (buffer : Bytes) : Bytes :=
  match s, v with
  | mask offset m order, .uint n =>
    let width := maskWidth m
    let new := order.write width ((n <<< trailingZeros m) &&& m)
    buffer.overwrite offset (List.zipWith (· ||| ·) (buffer.slice offset width) new)
  | bytes offset len transform, .uint n =>
    buffer.overwrite offset ((transform.order?.getD .little).write len n)
  | bytes offset len _, .bytes b => copyInto buffer offset len b
  | bytes offset len _, .text t => copyInto buffer offset len (Utf8.encode t)
  | bits offset width, .uint n => buffer.writeBits offset width n
  | _, _ => buffer

/-- Fails if the field reaches past a buffer length. -/
def checkBounds (s : Spec) (name : String) (len : Nat) : Except Error Unit :=
  if len < s.stop then .error (.bufferTooSmall name s.stop len) else .ok ()

/-- Fails unless the value can be stored in a buffer of a length: the field must lie inside, hold values of this
kind, and be wide enough. -/
def check (s : Spec) (name : String) (v : Value) (len : Nat) : Except Error Unit := do
  s.checkBounds name len
  if s.accepts v then
    match v.uint?, s.maxValue with
    | some n, some max => if max < n then throw (.valueTooLarge name n max)
    | _, _ => pure ()
  else
    throw (.typeMismatch name)

/-- Reads a field that has to lie inside the buffer. -/
def decode (s : Spec) (name : String) (buffer : Bytes) : Except Error Value := do
  s.checkBounds name buffer.length
  return s.read buffer

end Spec

/-! ## Tables -/

/-- The fields of one kind of buffer, in order. -/
structure Table (ι : Type) where
  fields : List (ι × Spec)
  deriving Repr

namespace Table

variable {ι : Type}

/-- The length of the shortest buffer that holds every field. -/
def minLength (t : Table ι) : Nat := t.fields.foldl (fun len (_, s) => max len s.stop) 0

variable [DecidableEq ι]

/-- The first entry of a field. -/
def spec? (t : Table ι) (id : ι) : Option Spec := (t.fields.find? fun f => f.1 = id).map Prod.snd

variable [Named ι]

/-- Reads every field. -/
def decode (t : Table ι) (buffer : Bytes) : Except Error (Values ι) := do
  let entries ← t.fields.mapM fun (id, s) => do return (id, ← s.decode (Named.name id) buffer)
  return ⟨entries⟩

/-- Reads one field, if the table has it. -/
def decodeOne (t : Table ι) (id : ι) (buffer : Bytes) : Except Error (Option Value) :=
  match t.spec? id with
  | none => .ok none
  | some s => (s.decode (Named.name id) buffer).map some

/-- The checked writes that store the entries whose fields the table has, in order. -/
def writes (t : Table ι) (len : Nat) : List (ι × Value) → Except Error (List (Spec × Value))
  | [] => .ok []
  | (id, v) :: rest =>
    match t.spec? id with
    | none => t.writes len rest
    | some s => do
      s.check (Named.name id) v len
      return (s, v) :: (← t.writes len rest)

/-- Stores the values whose fields the table has. Nothing is stored if one of them cannot be. -/
def encode (t : Table ι) (values : Values ι) (buffer : Bytes) : Except Error Bytes := do
  let writes ← t.writes buffer.length values.entries
  return writes.foldl (fun b (s, v) => s.write v b) buffer

end Table

end StorageCommands.Layout
