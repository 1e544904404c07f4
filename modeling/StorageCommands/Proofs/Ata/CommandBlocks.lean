import StorageCommands.Ata.PassThrough
import StorageCommands.Proofs.Layout.Integers

/-!
# The two command blocks

The 12-byte block and the 16-byte block carry an ATA command in different places. Each takes a request if all its values
fit (`block12_isOk_iff`, `block16_isOk_iff`), and every field of a block holds the value that was given for it
(`read_block12`, `read_block16`). So the registers that the blocks hand to a device can be compared one by one.

A request that the short block takes is taken by the long one too, which leaves EXTEND clear. Then only the later value
of each register pair counts, and the blocks agree on every register but one: bits 27:24 of the block address go into
the device register of the short block only. The device registers agree exactly if those bits are set in the register
already (`blocks_agree_iff`).
-/

namespace StorageCommands.Ata

open Bytes Layout

/-! ## The tables of the blocks -/

/-- The largest value of a field, given that of the registers that come as bytes in one block and as pairs in the
other. -/
def largest (register : Nat) : PassThroughField → Nat
  | .extend | .ckCond | .tType | .tDir | .bytBlok => 1
  | .offLine | .tLength => 3
  | .multipleCount => 7
  | .protocol => 15
  | .features | .count | .lbaLow | .lbaMid | .lbaHigh => register
  | .operationCode | .device | .command | .control => 0xff

/-- The table lays out a block: its fields share no bits, and each holds the integers up to its largest one. -/
structure LaysOut (t : Table PassThroughField) (register size : Nat) : Prop where
  separated : t.Separated
  plain : ∀ f ∈ t.fields, f.2.Plain
  maxValue : ∀ f ∈ t.fields, f.2.maxValue = some (largest register f.1)
  minLength : t.minLength = size

theorem laysOut_12 : LaysOut passThrough12 0xff 12 where
  separated := by decide
  plain := by decide +kernel
  maxValue := by decide +kernel
  minLength := rfl

theorem laysOut_16 : LaysOut passThrough16 0xffff 16 where
  separated := by decide
  plain := by decide +kernel
  maxValue := by decide +kernel
  minLength := rfl

/-- Only EXTEND has no place in the short block. -/
theorem spec?_12 (id : PassThroughField) (h : id ≠ .extend) : ∃ s, passThrough12.spec? id = some s := by
  cases id with
  | extend => exact (h rfl).elim
  | _ => exact ⟨_, rfl⟩

theorem spec?_16 (id : PassThroughField) : ∃ s, passThrough16.spec? id = some s := by
  cases id <;> exact ⟨_, rfl⟩

/-- A field's bytes are in a block that is laid out by its table. -/
theorem LaysOut.stop_le {t : Table PassThroughField} {register size : Nat} (ht : LaysOut t register size)
    {id : PassThroughField} {s : Spec} (hs : t.spec? id = some s) : s.stop ≤ size := by
  rw [← ht.minLength]
  exact Table.stop_le_minLength (Table.mem_of_spec? hs)

namespace PassThrough

variable {r : PassThrough} {b : Bytes}

/-! ## The values of the blocks -/

theorem values12_nodup (r : PassThrough) : (r.values12.map Prod.fst).Nodup := by simp [values12, flags]

theorem values16_nodup (r : PassThrough) : (r.values16.map Prod.fst).Nodup := by simp [values16, flags]

theorem values12_uint (r : PassThrough) : ∀ e ∈ r.values12, e.1 ≠ .extend ∧ ∃ n, e.2 = .uint n := by
  simp [values12, flags, Value.ofBool]

theorem values16_uint (r : PassThrough) : ∀ e ∈ r.values16, ∃ n, e.2 = .uint n := by
  simp [values16, flags, Value.ofBool]

/-- The request fits the flags that both blocks carry. -/
structure Carried (r : PassThrough) : Prop where
  multipleCount : r.multipleCount.toNat ≤ 7
  protocol : r.protocol.toNat ≤ 15
  offLine : r.offLine.toNat ≤ 3
  length : r.length.toNat ≤ 3

theorem lbaPair_lt (lba : UInt64) (shift : Nat) : lbaPair lba shift ≤ 0xffff := by
  unfold lbaPair
  omega

/-- The device register of the short block is a byte. -/
theorem device_or_lt (device : UInt8) {lba : UInt64} (h : lba ≤ maxLba28) :
    device.toNat ||| lba.toNat / 0x1000000 < 2 ^ 8 := by
  have hl : lba.toNat ≤ 0x0fffffff := UInt64.le_iff_toNat_le.1 h
  exact Nat.or_lt_two_pow device.toNat_lt (by omega)

/-! ## When a block takes a request -/

theorem values16_fit (r : PassThrough) :
    (∀ e ∈ r.values16, ∀ n, e.2 = .uint n → n ≤ largest 0xffff e.1) ↔ r.Carried := by
  have h8 : ∀ x : UInt8, x.toNat ≤ 255 := fun x => Nat.le_of_lt_succ x.toNat_lt
  have h16 : ∀ x : UInt16, x.toNat ≤ 65535 := fun x => Nat.le_of_lt_succ x.toNat_lt
  simp only [values16, flags, largest, Value.ofBool, Bool.toNat_le, lbaPair_lt, h8, h16, List.cons_append,
    List.nil_append, List.forall_mem_cons, Value.uint.injEq, forall_eq', List.not_mem_nil, false_imp_iff,
    implies_true, and_true, true_and]
  exact ⟨fun h => ⟨h.1, h.2.1, h.2.2.1, h.2.2.2⟩, fun h => ⟨h.1, h.2, h.3, h.4⟩⟩

theorem values12_fit (h : r.taskfile.lba ≤ maxLba28) :
    (∀ e ∈ r.values12, ∀ n, e.2 = .uint n → n ≤ largest 0xff e.1) ↔
      r.Carried ∧ r.taskfile.features.toNat ≤ 0xff ∧ r.taskfile.count.toNat ≤ 0xff := by
  have h8 : ∀ x : UInt8, x.toNat ≤ 255 := fun x => Nat.le_of_lt_succ x.toNat_lt
  have hmod : ∀ n : Nat, n % 256 ≤ 255 := fun n => by omega
  have hdevice := Nat.le_of_lt_succ (device_or_lt r.taskfile.device h)
  simp only [values12, flags, largest, Value.ofBool, Bool.toNat_le, h8, hmod, hdevice, List.cons_append,
    List.nil_append, List.forall_mem_cons, Value.uint.injEq, forall_eq', List.not_mem_nil, false_imp_iff,
    implies_true, and_true, true_and]
  exact ⟨fun h => ⟨⟨h.1, h.2.1, h.2.2.1, h.2.2.2.1⟩, h.2.2.2.2⟩, fun h => ⟨h.1.1, h.1.2, h.1.3, h.1.4, h.2⟩⟩

/-- **The 16-byte block takes every request whose flags fit.** -/
theorem block16_isOk_iff (r : PassThrough) : (∃ b, r.block16 = .ok b) ↔ r.Carried := by
  have hu : ∀ e ∈ (Values.mk r.values16).entries, ∃ n, e.2 = .uint n := r.values16_uint
  rw [block16, Table.encode_uint_isOk_iff laysOut_16.plain (Nat.le_of_eq laysOut_16.minLength) hu, ← values16_fit]
  refine forall₂_congr fun e _ => ?_
  obtain ⟨s, hs⟩ := spec?_16 e.1
  have hmax : s.maxValue = some (largest 0xffff e.1) := laysOut_16.maxValue _ (Table.mem_of_spec? hs)
  simp [hs, hmax]

/-- **The 12-byte block also wants the registers to be bytes and the block address to have 28 bits.** -/
theorem block12_isOk_iff (r : PassThrough) : (∃ b, r.block12 = .ok b) ↔
    r.Carried ∧ r.taskfile.features.toNat ≤ 0xff ∧ r.taskfile.count.toNat ≤ 0xff ∧ r.taskfile.lba ≤ maxLba28 := by
  unfold block12
  by_cases hl : maxLba28 < r.taskfile.lba
  · simp [hl, UInt64.not_le.2 hl]
  · have hle := UInt64.not_lt.1 hl
    have hu : ∀ e ∈ (Values.mk r.values12).entries, ∃ n, e.2 = .uint n := fun e he => (r.values12_uint e he).2
    rw [if_neg hl, Table.encode_uint_isOk_iff laysOut_12.plain (Nat.le_of_eq laysOut_12.minLength) hu]
    simp only [hle, and_true]
    rw [← values12_fit hle]
    refine forall₂_congr fun e he => ?_
    obtain ⟨s, hs⟩ := spec?_12 e.1 (r.values12_uint e he).1
    have hmax : s.maxValue = some (largest 0xff e.1) := laysOut_12.maxValue _ (Table.mem_of_spec? hs)
    simp [hs, hmax]

/-! ## What a block holds -/

/-- Every field of the 16-byte block holds its value. -/
theorem read_block16 (h : r.block16 = .ok b) {e : PassThroughField × Value} (he : e ∈ r.values16) {s : Spec}
    (hs : passThrough16.spec? e.1 = some s) : s.read b = e.2 :=
  laysOut_16.separated.read_of_encode_uint laysOut_16.plain r.values16_nodup r.values16_uint h he hs

theorem block12_eq (h : r.block12 = .ok b) : passThrough12.encode ⟨r.values12⟩ (zeros 12) = .ok b := by
  unfold block12 at h
  split at h
  · cases h
  · exact h

/-- Every field of the 12-byte block holds its value. -/
theorem read_block12 (h : r.block12 = .ok b) {e : PassThroughField × Value} (he : e ∈ r.values12) {s : Spec}
    (hs : passThrough12.spec? e.1 = some s) : s.read b = e.2 :=
  laysOut_12.separated.read_of_encode_uint laysOut_12.plain r.values12_nodup
    (fun e he => (r.values12_uint e he).2) (block12_eq h) he hs

theorem length_block16 (h : r.block16 = .ok b) : b.length = 16 := by rw [Table.length_of_encode h, length_zeros]

theorem length_block12 (h : r.block12 = .ok b) : b.length = 12 := by
  rw [Table.length_of_encode (block12_eq h), length_zeros]

/-- A byte of the 16-byte block. -/
theorem byteAt_block16 (h : r.block16 = .ok b) (id : PassThroughField) {n offset : Nat}
    (he : (id, .uint n) ∈ r.values16) (hs : passThrough16.spec? id = some (.bytes offset 1 .littleEndian))
    (ho : offset < 16) : (b.byteAt offset).toNat = n := by
  have hr := read_block16 h he hs
  rw [Spec.read_byte (by rw [length_block16 h]; exact ho)] at hr
  exact Value.uint.inj hr

/-- A byte of the 12-byte block. -/
theorem byteAt_block12 (h : r.block12 = .ok b) (id : PassThroughField) {n offset : Nat}
    (he : (id, .uint n) ∈ r.values12) (hs : passThrough12.spec? id = some (.bytes offset 1 .littleEndian))
    (ho : offset < 12) : (b.byteAt offset).toNat = n := by
  have hr := read_block12 h he hs
  rw [Spec.read_byte (by rw [length_block12 h]; exact ho)] at hr
  exact Value.uint.inj hr

/-- The later value of a register pair of the 16-byte block. -/
theorem laterAt_block16 (h : r.block16 = .ok b) (id : PassThroughField) (n : Nat) {offset : Nat}
    (he : (id, .uint n) ∈ r.values16) (hs : passThrough16.spec? id = some (.mask offset 0xffff .big))
    (ho : offset + 1 < 16) : (b.byteAt (offset + 1)).toNat = n % 256 := by
  have hr := read_block16 h he hs
  rw [Spec.read_pair (by rw [length_block16 h]; exact ho)] at hr
  have hn : 256 * (b.byteAt offset).toNat + (b.byteAt (offset + 1)).toNat = n := Value.uint.inj hr
  have := (b.byteAt (offset + 1)).toNat_lt
  omega

/-! ## The flags of both blocks -/

/-- The fields of bytes 1 and 2 that lie in the same place in both blocks. -/
def flagFields : List PassThroughField :=
  [.multipleCount, .protocol, .offLine, .ckCond, .tType, .tDir, .bytBlok, .tLength]

/-- These fields cover both bytes, EXTEND apart. -/
theorem flagFields_cover : ∀ pos < 24, 8 ≤ pos → pos = 8 ∨
    ∃ id ∈ flagFields, ∃ s ∈ passThrough12.spec? id, passThrough16.spec? id = some s ∧ s.covers pos = true := by
  decide

theorem exists_flag (r : PassThrough) {id : PassThroughField} (h : id ∈ flagFields) : ∃ v, (id, v) ∈ r.flags := by
  simp only [flagFields, List.mem_cons, List.not_mem_nil, or_false] at h
  rcases h with rfl | rfl | rfl | rfl | rfl | rfl | rfl | rfl <;> simp [flags]

/-- EXTEND is clear in the block of a 28-bit command. -/
theorem extend_block16 (h : r.block16 = .ok b) (hr : r.taskfile.isExtended = false) : b.bitAt 8 = false := by
  have he : (PassThroughField.extend, Value.uint 0) ∈ r.values16 := by simp [values16, hr, Value.ofBool]
  have hs : passThrough16.spec? .extend = some (.mask 1 0x01 .big) := rfl
  have hread := read_block16 h he hs
  have hzero : (Spec.mask 1 0x01 .big).read (zeros 16) = .uint 0 := by
    rw [Spec.read, trailingZeros]
    rfl
  have hl : (Spec.mask 1 0x01 .big).stop ≤ b.length := by
    rw [length_block16 h]
    exact laysOut_16.stop_le hs
  have hplain := laysOut_16.plain _ (Table.mem_of_spec? hs)
  rw [Spec.bitAt_eq_of_read_eq hplain hl (by decide) (hread.trans hzero.symm) rfl, bitAt_zeros]

/-- The bits of bytes 1 and 2 are the same in both blocks. -/
theorem bitAt_flags {b12 b16 : Bytes} (h12 : r.block12 = .ok b12) (h16 : r.block16 = .ok b16)
    (hr : r.taskfile.isExtended = false) {pos : Nat} (h8 : 8 ≤ pos) (h24 : pos < 24) :
    b16.bitAt pos = b12.bitAt pos := by
  rcases flagFields_cover pos h24 h8 with rfl | ⟨id, hid, s, hs12, hs16, hp⟩
  · -- no field of the short block has the bit of EXTEND
    have hno : ∀ f ∈ passThrough12.fields, f.2.covers 8 = false := by decide
    rw [extend_block16 h16 hr, Table.bitAt_of_encode_of_not_covers (block12_eq h12) hno, bitAt_zeros]
  · obtain ⟨v, hv⟩ := r.exists_flag hid
    have hr16 := read_block16 h16 (List.mem_append_left _ hv) hs16
    have hr12 := read_block12 h12 (List.mem_append_left _ hv) hs12
    have hl16 : s.stop ≤ b16.length := by
      rw [length_block16 h16]
      exact laysOut_16.stop_le hs16
    have hl12 : s.stop ≤ b12.length := by
      rw [length_block12 h12]
      exact laysOut_12.stop_le hs12
    have hplain := laysOut_12.plain _ (Table.mem_of_spec? hs12)
    exact Spec.bitAt_eq_of_read_eq hplain hl16 hl12 (hr16.trans hr12.symm) hp

/-! ## The registers of both blocks -/

/-- The registers of a 28-bit command. -/
structure Registers where
  features : UInt8
  count : UInt8
  lbaLow : UInt8
  lbaMid : UInt8
  lbaHigh : UInt8
  /-- Its low half holds bits 27:24 of the block address. -/
  device : UInt8
  command : UInt8
  deriving DecidableEq, Repr

/-- The registers that the 12-byte block hands to a device. -/
def registers12 (b : Bytes) : Registers where
  features := b.byteAt 3
  count := b.byteAt 4
  lbaLow := b.byteAt 5
  lbaMid := b.byteAt 6
  lbaHigh := b.byteAt 7
  device := b.byteAt 8
  command := b.byteAt 9

/-- The registers that the 16-byte block hands to a device while EXTEND is clear: the later value of each pair. -/
def registers16 (b : Bytes) : Registers where
  features := b.byteAt 4
  count := b.byteAt 6
  lbaLow := b.byteAt 8
  lbaMid := b.byteAt 10
  lbaHigh := b.byteAt 12
  device := b.byteAt 13
  command := b.byteAt 14

/-- The registers of the 12-byte block. -/
theorem toNat_registers12 (h : r.block12 = .ok b) :
    (registers12 b).features.toNat = r.taskfile.features.toNat ∧ (registers12 b).count.toNat = r.taskfile.count.toNat
      ∧ (registers12 b).lbaLow.toNat = r.taskfile.lba.toNat % 256
      ∧ (registers12 b).lbaMid.toNat = r.taskfile.lba.toNat / 2 ^ 8 % 256
      ∧ (registers12 b).lbaHigh.toNat = r.taskfile.lba.toNat / 2 ^ 16 % 256
      ∧ (registers12 b).device.toNat = r.taskfile.device.toNat ||| r.taskfile.lba.toNat / 2 ^ 24
      ∧ (registers12 b).command.toNat = r.taskfile.command.toNat := by
  refine ⟨?_, ?_, ?_, ?_, ?_, ?_, ?_⟩
  · exact byteAt_block12 h .features (by simp [values12]) rfl (by decide)
  · exact byteAt_block12 h .count (by simp [values12]) rfl (by decide)
  · exact byteAt_block12 h .lbaLow (by simp [values12]) rfl (by decide)
  · exact byteAt_block12 h .lbaMid (by simp [values12]) rfl (by decide)
  · exact byteAt_block12 h .lbaHigh (by simp [values12]) rfl (by decide)
  · exact byteAt_block12 h .device (by simp [values12]) rfl (by decide)
  · exact byteAt_block12 h .command (by simp [values12, flags]) rfl (by decide)

/-- The registers of the 16-byte block of a 28-bit command. -/
theorem toNat_registers16 (h : r.block16 = .ok b) (hf : r.taskfile.features.toNat ≤ 0xff)
    (hc : r.taskfile.count.toNat ≤ 0xff) :
    (registers16 b).features.toNat = r.taskfile.features.toNat ∧ (registers16 b).count.toNat = r.taskfile.count.toNat
      ∧ (registers16 b).lbaLow.toNat = r.taskfile.lba.toNat % 256
      ∧ (registers16 b).lbaMid.toNat = r.taskfile.lba.toNat / 2 ^ 8 % 256
      ∧ (registers16 b).lbaHigh.toNat = r.taskfile.lba.toNat / 2 ^ 16 % 256
      ∧ (registers16 b).device.toNat = r.taskfile.device.toNat
      ∧ (registers16 b).command.toNat = r.taskfile.command.toNat := by
  have hlba : ∀ shift, lbaPair r.taskfile.lba shift % 256 = r.taskfile.lba.toNat / 2 ^ shift % 256 := by
    intro shift
    unfold lbaPair
    omega
  refine ⟨?_, ?_, ?_, ?_, ?_, ?_, ?_⟩
  · have hp := laterAt_block16 h .features r.taskfile.features.toNat (by simp [values16]) rfl (by decide)
    exact hp.trans (Nat.mod_eq_of_lt (by omega))
  · have hp := laterAt_block16 h .count r.taskfile.count.toNat (by simp [values16]) rfl (by decide)
    exact hp.trans (Nat.mod_eq_of_lt (by omega))
  · have hp := laterAt_block16 h .lbaLow (lbaPair r.taskfile.lba 0) (by simp [values16]) rfl (by decide)
    rw [hlba, Nat.pow_zero, Nat.div_one] at hp
    exact hp
  · have hp := laterAt_block16 h .lbaMid (lbaPair r.taskfile.lba 8) (by simp [values16]) rfl (by decide)
    exact hp.trans (hlba 8)
  · have hp := laterAt_block16 h .lbaHigh (lbaPair r.taskfile.lba 16) (by simp [values16]) rfl (by decide)
    exact hp.trans (hlba 16)
  · exact byteAt_block16 h .device (by simp [values16]) rfl (by decide)
  · exact byteAt_block16 h .command (by simp [values16, flags]) rfl (by decide)

theorem isExtended_eq_false (hf : r.taskfile.features.toNat ≤ 0xff) (hc : r.taskfile.count.toNat ≤ 0xff)
    (hl : r.taskfile.lba ≤ maxLba28) : r.taskfile.isExtended = false := by
  have hf' : ¬0xff < r.taskfile.features := by rw [UInt16.lt_iff_toNat_lt]; exact Nat.not_lt.2 hf
  have hc' : ¬0xff < r.taskfile.count := by rw [UInt16.lt_iff_toNat_lt]; exact Nat.not_lt.2 hc
  simp [Taskfile.isExtended, hf', hc', UInt64.not_lt.2 hl]

/-- **Where the two blocks agree**: a request that the 12-byte block takes is taken by the 16-byte block, with EXTEND
clear. The flags, the control byte and all registers of the two are the same, the device register apart: the long block
leaves out bits 27:24 of the block address there, so that the device registers agree exactly if those bits are set in
the request's device register already. -/
theorem blocks_agree_iff {b12 : Bytes} (h12 : r.block12 = .ok b12) :
    ∃ b16, r.block16 = .ok b16 ∧ b16.bitAt 8 = false
      ∧ b16.byteAt 1 = b12.byteAt 1 ∧ b16.byteAt 2 = b12.byteAt 2 ∧ b16.byteAt 15 = b12.byteAt 11
      ∧ registers16 b16 = { registers12 b12 with device := r.taskfile.device }
      ∧ (registers16 b16 = registers12 b12 ↔
          r.taskfile.device.toNat ||| r.taskfile.lba.toNat / 2 ^ 24 = r.taskfile.device.toNat) := by
  obtain ⟨hcarried, hf, hc, hl⟩ := (block12_isOk_iff r).1 ⟨b12, h12⟩
  obtain ⟨b16, h16⟩ := (block16_isOk_iff r).2 hcarried
  have hext := isExtended_eq_false hf hc hl
  have hbyte : ∀ i, 1 ≤ i → i < 3 → b16.byteAt i = b12.byteAt i := by
    intro i h1 h3
    apply eq_of_testBit
    intro k hk
    rw [testBit_byteAt _ _ hk, testBit_byteAt _ _ hk]
    exact bitAt_flags h12 h16 hext (by omega) (by omega)
  have hcontrol : b16.byteAt 15 = b12.byteAt 11 := by
    have h1 : (b16.byteAt 15).toNat = r.control.toNat :=
      byteAt_block16 h16 .control (by simp [values16, flags]) rfl (by decide)
    have h2 : (b12.byteAt 11).toNat = r.control.toNat :=
      byteAt_block12 h12 .control (by simp [values12, flags]) rfl (by decide)
    exact UInt8.toNat_inj.1 (h1.trans h2.symm)
  obtain ⟨f12, c12, low12, mid12, high12, device12, command12⟩ := toNat_registers12 h12
  obtain ⟨f16, c16, low16, mid16, high16, device16, command16⟩ := toNat_registers16 h16 hf hc
  have hregisters : registers16 b16 = { registers12 b12 with device := r.taskfile.device } := by
    rw [Registers.mk.injEq]
    simp only [← UInt8.toNat_inj]
    exact ⟨f16.trans f12.symm, c16.trans c12.symm, low16.trans low12.symm, mid16.trans mid12.symm,
      high16.trans high12.symm, device16, command16.trans command12.symm⟩
  refine ⟨b16, h16, extend_block16 h16 hext, hbyte 1 (by omega) (by omega), hbyte 2 (by omega) (by omega), hcontrol,
    hregisters, ?_⟩
  rw [hregisters, ← device12]
  constructor
  · intro h
    exact congrArg (fun x => x.device.toNat) h.symm
  · intro h
    rw [← UInt8.toNat_inj.1 h]

/-- A command at the first block address that has a bit above the three address registers. -/
def highSector : PassThrough := readBlock { lba := 0x1000000, command := 0x20 }

/-- The same command, with the address bit in its device register too. -/
def highSectorTwice : PassThrough := readBlock { lba := 0x1000000, device := 0x41, command := 0x20 }

theorem blocks_agree_highSectorTwice :
    highSectorTwice.block12 = .ok [0xa1, 0x08, 0x0e, 0, 1, 0, 0, 0, 0x41, 0x20, 0, 0]
      ∧ ∃ b16, highSectorTwice.block16 = .ok b16 ∧ b16.bitAt 8 = false
        ∧ registers16 b16 = registers12 [0xa1, 0x08, 0x0e, 0, 1, 0, 0, 0, 0x41, 0x20, 0, 0] := by
  have h12 : highSectorTwice.block12 = .ok [0xa1, 0x08, 0x0e, 0, 1, 0, 0, 0, 0x41, 0x20, 0, 0] := by decide +kernel
  obtain ⟨b16, h16, hext, -, -, -, -, hiff⟩ := blocks_agree_iff h12
  exact ⟨h12, b16, h16, hext, hiff.2 (by decide +kernel)⟩

/-- The blocks do not agree on every request: this one's 16-byte block addresses sector zero. -/
theorem highSector_blocks_disagree :
    ¬∀ (r : PassThrough) (b12 : Bytes), r.block12 = .ok b12 → ∃ b16, r.block16 = .ok b16 ∧ b16.bitAt 8 = false
      ∧ b16.byteAt 1 = b12.byteAt 1 ∧ b16.byteAt 2 = b12.byteAt 2 ∧ b16.byteAt 15 = b12.byteAt 11
      ∧ registers16 b16 = registers12 b12 := by
  intro hall
  have h12 : highSector.block12 = .ok [0xa1, 0x08, 0x0e, 0, 1, 0, 0, 0, 0x01, 0x20, 0, 0] := by decide +kernel
  have h16 : highSector.block16 = .ok [0x85, 0x08, 0x0e, 0, 0, 0, 1, 1, 0, 0, 0, 0, 0, 0, 0x20, 0] := by decide +kernel
  obtain ⟨b16, hb16, -, -, -, -, hregisters⟩ := hall highSector _ h12
  rw [h16] at hb16
  cases hb16
  have hdevice := congrArg Registers.device hregisters
  revert hdevice
  decide

end PassThrough

end StorageCommands.Ata
