/-!
# Byte strings

A byte string is a list of bytes, first byte first.

- `slice` reads a window and `overwrite` replaces one; a window past the end is cut there.
- `ByteOrder.read` and `ByteOrder.write` pass between bytes and integers, in either byte order.
- `bitAt`, `readBits` and `writeBits` number the bits of the whole string from the lowest bit of the first byte.
-/

namespace StorageCommands

/-- A byte string, first byte first. -/
abbrev Bytes := List UInt8

namespace Bytes

/-- A string of zero bytes. -/
def zeros (n : Nat) : Bytes := List.replicate n 0

/-- The bytes from `offset` on, at most `len` of them. -/
def slice (b : Bytes) (offset len : Nat) : Bytes := (b.drop offset).take len

/-- Puts `new` over the bytes from `offset` on. -/
def overwrite (b : Bytes) (offset : Nat) (new : Bytes) : Bytes :=
  b.take offset ++ new ++ b.drop (offset + new.length)

/-- Copies `new` to the start of a window, as far as the window reaches, and keeps the rest of the window. -/
def fill (window new : Bytes) : Bytes :=
  new.take window.length ++ window.drop new.length

/-- Puts byte strings over the bytes from their offsets on, one after the other; what lies past the end is dropped. -/
def patch (b : Bytes) (patches : List (Nat × Bytes)) : Bytes :=
  patches.foldl (fun b (offset, new) => (b.overwrite offset new).take b.length) b

/-- The byte at an index, zero past the end. -/
def byteAt (b : Bytes) (i : Nat) : UInt8 := b.getD i 0

@[simp] theorem length_zeros (n : Nat) : (zeros n).length = n := by simp [zeros]

theorem length_overwrite {b new : Bytes} {offset : Nat} (h : offset + new.length ≤ b.length) :
    (b.overwrite offset new).length = b.length := by
  simp only [overwrite, List.length_append, List.length_take, List.length_drop]
  omega

@[simp] theorem length_fill (window new : Bytes) : (fill window new).length = window.length := by
  simp only [fill, List.length_append, List.length_take, List.length_drop]
  omega

/-! ## Integers -/

/-- The integer whose base-256 digits are the bytes, least significant first. -/
def littleEndian : Bytes → Nat
  | [] => 0
  | b :: bs => b.toNat + 256 * littleEndian bs

/-- The integer whose base-256 digits are the bytes, most significant first. -/
def bigEndian (b : Bytes) : Nat := b.foldl (fun acc x => 256 * acc + x.toNat) 0

/-- The low `n` base-256 digits of an integer, least significant first. -/
def ofLittleEndian : Nat → Nat → Bytes
  | 0, _ => []
  | n + 1, v => UInt8.ofNat v :: ofLittleEndian n (v / 256)

/-- The low `n` base-256 digits of an integer, most significant first. -/
def ofBigEndian : Nat → Nat → Bytes
  | 0, _ => []
  | n + 1, v => UInt8.ofNat (v >>> (8 * n)) :: ofBigEndian n v

@[simp] theorem length_ofLittleEndian (n v : Nat) : (ofLittleEndian n v).length = n := by
  induction n generalizing v with
  | zero => rfl
  | succ n ih => simp [ofLittleEndian, ih]

@[simp] theorem length_ofBigEndian (n v : Nat) : (ofBigEndian n v).length = n := by
  induction n with
  | zero => rfl
  | succ n ih => simp [ofBigEndian, ih]

/-! ## Bits -/

/-- The bit at a position, false past the end. -/
def bitAt (b : Bytes) (pos : Nat) : Bool := (b.byteAt (pos / 8)).toNat.testBit (pos % 8)

/-- A byte with one of its bits put to a value. -/
def withBit (x : UInt8) (i : Nat) (bit : Bool) : UInt8 :=
  let mask := UInt8.ofNat (1 <<< i)
  if bit then x ||| mask else x &&& ~~~mask

/-- The string with the bit at a position put to a value. -/
def setBit (b : Bytes) (pos : Nat) (bit : Bool) : Bytes :=
  b.modify (pos / 8) fun x => withBit x (pos % 8) bit

/-- The integer whose binary digits are the `width` bits from `pos` on, lowest first. -/
def readBits (b : Bytes) (pos : Nat) : Nat → Nat
  | 0 => 0
  | width + 1 => (b.bitAt pos).toNat + 2 * readBits b (pos + 1) width

/-- Replaces the `width` bits from `pos` on by the low binary digits of `v`. -/
def writeBits (b : Bytes) (pos : Nat) : Nat → Nat → Bytes
  | 0, _ => b
  | width + 1, v => writeBits (b.setBit pos (v.testBit 0)) (pos + 1) width (v / 2)

@[simp] theorem length_setBit (b : Bytes) (pos : Nat) (bit : Bool) : (b.setBit pos bit).length = b.length := by
  simp [setBit]

@[simp] theorem length_writeBits (b : Bytes) (pos width v : Nat) : (b.writeBits pos width v).length = b.length := by
  induction width generalizing b pos v with
  | zero => rfl
  | succ n ih => simp [writeBits, ih]

end Bytes

/-- The order in which the bytes of an integer are stored. -/
inductive ByteOrder
  /-- Most significant byte first. -/
  | big
  /-- Least significant byte first. -/
  | little
  deriving DecidableEq, Repr

namespace ByteOrder

/-- The integer stored in a byte string. -/
def read : ByteOrder → Bytes → Nat
  | big => Bytes.bigEndian
  | little => Bytes.littleEndian

/-- The `n` bytes that store an integer, its higher bytes dropped. -/
def write : ByteOrder → Nat → Nat → Bytes
  | big => Bytes.ofBigEndian
  | little => Bytes.ofLittleEndian

@[simp] theorem length_write (order : ByteOrder) (n v : Nat) : (order.write n v).length = n := by
  cases order <;> simp [write]

end ByteOrder

end StorageCommands
