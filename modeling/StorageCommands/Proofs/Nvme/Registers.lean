import StorageCommands.Nvme.Queue
import StorageCommands.Proofs.Bytes.Bits

/-!
# Integers and registers in byte strings

- Integers of 2, 4 and 8 bytes are read from slices of a byte string, and written as they were read.
- The fields of a register share its bits out if it is `RegisterLayout.Partitioned`. A field of an integer in a byte
  string is a bit range of the string (`RegisterField.get_littleEndian`).
-/

namespace StorageCommands

open Bytes

/-! ## Integers -/

namespace Bytes

theorem littleEndian_slice_lt (b : Bytes) (offset n : Nat) : (b.slice offset n).littleEndian < 2 ^ (8 * n) := by
  have hlength : (b.slice offset n).length ≤ n := List.length_take_le ..
  exact Nat.lt_of_lt_of_le (littleEndian_lt _) (Nat.pow_le_pow_right Nat.two_pos (by omega))

/-- The bytes of an integer that was read are those that it was read from. -/
theorem ofLittleEndian_slice {b : Bytes} {offset n : Nat} (h : offset + n ≤ b.length) :
    ofLittleEndian n (b.slice offset n).littleEndian = b.slice offset n := by
  have hread := ByteOrder.little.write_read (b.slice offset n)
  rw [length_slice h] at hread
  exact hread

/-- Slices of some lengths that follow each other. -/
def slices (b : Bytes) : Nat → List Nat → List Bytes
  | _, [] => []
  | offset, n :: ns => b.slice offset n :: slices b (offset + n) ns

theorem flatten_slices (b : Bytes) (offset : Nat) (ns : List Nat) :
    (b.slices offset ns).flatten = b.slice offset (ns.foldr (· + ·) 0) := by
  induction ns generalizing offset with
  | nil => rfl
  | cons n ns ih => rw [slices, List.flatten_cons, ih, List.foldr_cons, slice_add]

theorem littleEndian_ofLittleEndian {n v : Nat} (h : v < 2 ^ (8 * n)) : (ofLittleEndian n v).littleEndian = v :=
  (ByteOrder.little.read_write n v).trans (Nat.mod_eq_of_lt h)

end Bytes

namespace Nvme

@[simp] theorem toNat_wordAt (b : Bytes) (offset : Nat) :
    (wordAt b offset).toNat = (b.slice offset 2).littleEndian := by
  rw [wordAt, UInt16.toNat_ofNat', Nat.mod_eq_of_lt (littleEndian_slice_lt b offset 2)]

@[simp] theorem toNat_dwordAt (b : Bytes) (offset : Nat) :
    (dwordAt b offset).toNat = (b.slice offset 4).littleEndian := by
  rw [dwordAt, UInt32.toNat_ofNat', Nat.mod_eq_of_lt (littleEndian_slice_lt b offset 4)]

@[simp] theorem toNat_qwordAt (b : Bytes) (offset : Nat) :
    (qwordAt b offset).toNat = (b.slice offset 8).littleEndian := by
  rw [qwordAt, UInt64.toNat_ofNat', Nat.mod_eq_of_lt (littleEndian_slice_lt b offset 8)]

theorem wordBytes_wordAt {b : Bytes} {offset : Nat} (h : offset + 2 ≤ b.length) :
    wordBytes (wordAt b offset) = b.slice offset 2 := by
  rw [wordBytes, toNat_wordAt, ofLittleEndian_slice h]

theorem dwordBytes_dwordAt {b : Bytes} {offset : Nat} (h : offset + 4 ≤ b.length) :
    dwordBytes (dwordAt b offset) = b.slice offset 4 := by
  rw [dwordBytes, toNat_dwordAt, ofLittleEndian_slice h]

theorem qwordBytes_qwordAt {b : Bytes} {offset : Nat} (h : offset + 8 ≤ b.length) :
    qwordBytes (qwordAt b offset) = b.slice offset 8 := by
  rw [qwordBytes, toNat_qwordAt, ofLittleEndian_slice h]

@[simp] theorem littleEndian_wordBytes (v : UInt16) : (wordBytes v).littleEndian = v.toNat :=
  littleEndian_ofLittleEndian v.toNat_lt

@[simp] theorem littleEndian_dwordBytes (v : UInt32) : (dwordBytes v).littleEndian = v.toNat :=
  littleEndian_ofLittleEndian v.toNat_lt

@[simp] theorem littleEndian_qwordBytes (v : UInt64) : (qwordBytes v).littleEndian = v.toNat :=
  littleEndian_ofLittleEndian v.toNat_lt

theorem wordAt_of_slice {b : Bytes} {offset : Nat} {v : UInt16} (h : b.slice offset 2 = wordBytes v) :
    wordAt b offset = v := by
  rw [wordAt, h, littleEndian_wordBytes, UInt16.ofNat_toNat]

theorem dwordAt_of_slice {b : Bytes} {offset : Nat} {v : UInt32} (h : b.slice offset 4 = dwordBytes v) :
    dwordAt b offset = v := by
  rw [dwordAt, h, littleEndian_dwordBytes, UInt32.ofNat_toNat]

theorem qwordAt_of_slice {b : Bytes} {offset : Nat} {v : UInt64} (h : b.slice offset 8 = qwordBytes v) :
    qwordAt b offset = v := by
  rw [qwordAt, h, littleEndian_qwordBytes, UInt64.ofNat_toNat]

end Nvme

/-! ## Registers -/

namespace RegisterField

/-- Whether a bit of the register belongs to the field. -/
def covers (f : RegisterField) (pos : Nat) : Bool := decide (f.offset ≤ pos ∧ pos < f.offset + f.width)

theorem get_lt (f : RegisterField) (raw : Nat) : f.get raw < 2 ^ f.width := by
  rw [get, Nat.one_shiftLeft]
  exact Nat.mod_lt _ (Nat.two_pow_pos f.width)

theorem testBit_get (f : RegisterField) (raw i : Nat) :
    (f.get raw).testBit i = (decide (i < f.width) && raw.testBit (f.offset + i)) := by
  rw [get, Nat.one_shiftLeft, Nat.testBit_mod_two_pow, Nat.testBit_shiftRight]

/-- A field of an integer in a byte string is a bit range of the string. -/
theorem get_littleEndian (f : RegisterField) (b : Bytes) (offset : Nat) {n : Nat} (h : f.offset + f.width ≤ 8 * n) :
    f.get (b.slice offset n).littleEndian = b.readBits (8 * offset + f.offset) f.width := by
  apply Nat.eq_of_testBit_eq
  intro i
  rw [testBit_get, testBit_readBits, testBit_littleEndian, bitAt_slice]
  by_cases hi : i < f.width
  · rw [if_pos (by omega), Nat.add_assoc]
  · rw [decide_eq_false hi, Bool.false_and, Bool.false_and]

/-- A flag is one bit. -/
theorem test_bit (name : String) (offset raw : Nat) : (bit name offset).test raw = raw.testBit offset := by
  rw [test, get, bit, Nat.testBit_eq_decide_div_mod_eq, Nat.shiftRight_eq_div_pow]
  have hlt := Nat.mod_lt (raw / 2 ^ offset) Nat.two_pos
  by_cases hone : raw / 2 ^ offset % 2 = 1
  · simp [hone]
  · have hzero : raw / 2 ^ offset % 2 = 0 := by omega
    simp [hzero]

end RegisterField

/-- Each bit of the register belongs to exactly one field. -/
structure RegisterLayout.Partitioned (layout : RegisterLayout) : Prop where
  within : ∀ f ∈ layout.fields, f.offset + f.width ≤ 8 * layout.bytes
  once : ∀ pos < 8 * layout.bytes, layout.fields.countP (·.covers pos) = 1

/-- The fields of a register in a byte string are bit ranges of the string. -/
theorem RegisterLayout.Partitioned.fields_littleEndian {layout : RegisterLayout} (h : layout.Partitioned) (b : Bytes)
    (offset : Nat) : layout.fields.map (fun f => (f.name, f.get (b.slice offset layout.bytes).littleEndian))
      = layout.fields.map fun f => (f.name, b.readBits (8 * offset + f.offset) f.width) :=
  List.map_congr_left fun f hf => by rw [f.get_littleEndian b offset (h.within f hf)]

end StorageCommands
