import StorageCommands.Proofs.Ata.CommandBlocks

/-!
# What a command block gives back

`contents16` and `contents12` read everything that a request consists of back from the decoded fields of a block.

- In a 16-byte block the block address comes in three pairs of bytes (`addressOfPairs`), with room for 48 bits; a
  request has a 64-bit integer there. Everything that was given is given back, and of the address its low 48 bits
  (`decode_block16`). A longer address is not refused, unlike one of more than 28 bits for the 12-byte block, and so it
  is lost (`long_address_lost`).
- In a 12-byte block the low half of the device register is bits 27:24 of the address, on top of what the request has
  there. So a request is given back as a whole if it leaves this half to the address (`decode_block12`).
-/

namespace StorageCommands.Ata

open Bytes Layout

/-- What a block says about a command, each part as an integer. -/
structure Contents where
  operationCode : Nat
  multipleCount : Nat
  protocol : Nat
  offLine : Nat
  checkCondition : Nat
  logicalBlocks : Nat
  fromDevice : Nat
  countsBlocks : Nat
  length : Nat
  features : Nat
  count : Nat
  lba : Nat
  device : Nat
  command : Nat
  control : Nat
  deriving DecidableEq, Repr

/-- The block address in three pairs: the later values are its low bytes, and the earlier ones its high bytes. -/
def addressOfPairs (low mid high : Nat) : Nat :=
  low % 256 + mid % 256 * 2 ^ 8 + high % 256 * 2 ^ 16 + low / 256 * 2 ^ 24 + mid / 256 * 2 ^ 32 + high / 256 * 2 ^ 40

/-- The contents of a 16-byte block. -/
def contents16 (v : Values PassThroughField) : Contents where
  operationCode := v.uint .operationCode
  multipleCount := v.uint .multipleCount
  protocol := v.uint .protocol
  offLine := v.uint .offLine
  checkCondition := v.uint .ckCond
  logicalBlocks := v.uint .tType
  fromDevice := v.uint .tDir
  countsBlocks := v.uint .bytBlok
  length := v.uint .tLength
  features := v.uint .features
  count := v.uint .count
  lba := addressOfPairs (v.uint .lbaLow) (v.uint .lbaMid) (v.uint .lbaHigh)
  device := v.uint .device
  command := v.uint .command
  control := v.uint .control

/-- The contents of a 12-byte block. -/
def contents12 (v : Values PassThroughField) : Contents where
  __ := contents16 v
  lba := v.uint .lbaLow + v.uint .lbaMid * 2 ^ 8 + v.uint .lbaHigh * 2 ^ 16 + v.uint .device % 2 ^ 4 * 2 ^ 24
  device := v.uint .device / 2 ^ 4 * 2 ^ 4

namespace PassThrough

variable {r : PassThrough} {b : Bytes}

/-- What a request asks to be carried, in a block with an operation code. -/
def contents (r : PassThrough) (operation : Scsi.Operation) : Contents where
  operationCode := operation.toNat
  multipleCount := r.multipleCount.toNat
  protocol := r.protocol.toNat
  offLine := r.offLine.toNat
  checkCondition := r.checkCondition.toNat
  logicalBlocks := r.logicalBlocks.toNat
  fromDevice := (decide (r.direction = .fromDevice)).toNat
  countsBlocks := r.countsBlocks.toNat
  length := r.length.toNat
  features := r.taskfile.features.toNat
  count := r.taskfile.count.toNat
  lba := r.taskfile.lba.toNat
  device := r.taskfile.device.toNat
  command := r.taskfile.command.toNat
  control := r.control.toNat

/-- The pairs of an address have room for its low 48 bits. -/
theorem addressOfPairs_lbaPair (lba : UInt64) :
    addressOfPairs (lbaPair lba 0) (lbaPair lba 8) (lbaPair lba 16) = lba.toNat % 2 ^ 48 := by
  simp only [addressOfPairs, lbaPair, Nat.shiftRight_eq_div_pow]
  omega

/-- Decoding a 16-byte block gives every field the integer that was given for it. -/
theorem decode_uint_block16 (h : r.block16 = .ok b) :
    ∃ decoded, passThrough16.decode b = .ok decoded ∧ ∀ id, decoded.uint id = (Values.mk r.values16).uint id := by
  obtain ⟨decoded, hdecoded, huint⟩ := laysOut_16.separated.decode_encode_uint laysOut_16.plain
    (Nat.le_of_eq laysOut_16.minLength) r.values16_nodup r.values16_uint h
  refine ⟨decoded, hdecoded, fun id => ?_⟩
  obtain ⟨s, hs⟩ := spec?_16 id
  exact huint (id, s) (Table.mem_of_spec? hs)

/-- Decoding a 16-byte block gives all of a request, and of the block address the low 48 bits. -/
theorem contents_block16 (h : r.block16 = .ok b) :
    ∃ decoded, passThrough16.decode b = .ok decoded
      ∧ contents16 decoded = { r.contents .ataPassThrough16 with lba := r.taskfile.lba.toNat % 2 ^ 48 }
      ∧ decoded.uint .extend = r.taskfile.isExtended.toNat := by
  obtain ⟨decoded, hdecoded, huint⟩ := decode_uint_block16 h
  refine ⟨decoded, hdecoded, ?_, huint .extend⟩
  have hlba := addressOfPairs_lbaPair r.taskfile.lba
  simp only [contents16, huint, Contents.mk.injEq]
  exact ⟨rfl, rfl, rfl, rfl, rfl, rfl, rfl, rfl, rfl, rfl, rfl, hlba, rfl, rfl, rfl⟩

/-- **What the 16-byte block gives back**: everything that was given, of the block address the low 48 bits. That is the
whole request exactly if the address has no more. -/
theorem decode_block16 (h : r.block16 = .ok b) :
    ∃ decoded, passThrough16.decode b = .ok decoded
      ∧ contents16 decoded = { r.contents .ataPassThrough16 with lba := r.taskfile.lba.toNat % 2 ^ 48 }
      ∧ decoded.uint .extend = r.taskfile.isExtended.toNat
      ∧ (contents16 decoded = r.contents .ataPassThrough16 ↔ r.taskfile.lba.toNat < 2 ^ 48) := by
  obtain ⟨decoded, hdecoded, hcontents, hextend⟩ := contents_block16 h
  refine ⟨decoded, hdecoded, hcontents, hextend, ?_⟩
  rw [hcontents]
  constructor
  · intro hlba
    have hmod : r.taskfile.lba.toNat % 2 ^ 48 = r.taskfile.lba.toNat := congrArg Contents.lba hlba
    omega
  · intro hlt
    rw [Nat.mod_eq_of_lt hlt]
    rfl

/-- A read of 258 sectors at an address of 45 bits, with the registers in the sense data. -/
def farSectors : PassThrough where
  protocol := 6
  direction := .fromDevice
  length := .sectorCount
  countsBlocks := true
  checkCondition := true
  taskfile := { count := 0x0102, lba := 0x123456789abc, device := 0x40, command := 0x25 }

theorem decode_farSectors :
    farSectors.block16 = .ok [0x85, 0x0d, 0x2e, 0, 0, 1, 2, 0x56, 0xbc, 0x34, 0x9a, 0x12, 0x78, 0x40, 0x25, 0]
      ∧ ∃ decoded, passThrough16.decode
          [0x85, 0x0d, 0x2e, 0, 0, 1, 2, 0x56, 0xbc, 0x34, 0x9a, 0x12, 0x78, 0x40, 0x25, 0]
          = .ok decoded
        ∧ contents16 decoded = farSectors.contents .ataPassThrough16 := by
  have h : farSectors.block16 =
      .ok [0x85, 0x0d, 0x2e, 0, 0, 1, 2, 0x56, 0xbc, 0x34, 0x9a, 0x12, 0x78, 0x40, 0x25, 0] := by decide +kernel
  obtain ⟨decoded, hdecoded, -, -, hiff⟩ := decode_block16 h
  exact ⟨h, decoded, hdecoded, hiff.2 (by decide)⟩

/-- A read of the first address that has more than 48 bits. -/
def addressTooLong : PassThrough := readBlock { lba := 0x1000000000000, command := 0x24 }

/-- An address of more than 48 bits is accepted and lost: this request's block addresses sector zero. -/
theorem long_address_lost :
    ¬∀ (r : PassThrough) (b : Bytes), r.block16 = .ok b → ∃ decoded, passThrough16.decode b = .ok decoded
      ∧ contents16 decoded = r.contents .ataPassThrough16 := by
  intro hall
  have h : addressTooLong.block16 = .ok [0x85, 0x09, 0x0e, 0, 0, 0, 1, 0, 0, 0, 0, 0, 0, 0, 0x24, 0] := by
    decide +kernel
  obtain ⟨decoded, hdecoded, hcontents⟩ := hall addressTooLong _ h
  obtain ⟨decoded', hdecoded', hcontents', -⟩ := contents_block16 h
  cases hdecoded.symm.trans hdecoded'
  have hlba := congrArg Contents.lba (hcontents.symm.trans hcontents')
  revert hlba
  decide

/-! ## The 12-byte block -/

/-- Decoding a 12-byte block gives every field that it has the integer that was given for it. -/
theorem decode_uint_block12 (h : r.block12 = .ok b) :
    ∃ decoded, passThrough12.decode b = .ok decoded
      ∧ ∀ id, id ≠ .extend → decoded.uint id = (Values.mk r.values12).uint id := by
  obtain ⟨decoded, hdecoded, huint⟩ := laysOut_12.separated.decode_encode_uint laysOut_12.plain
    (Nat.le_of_eq laysOut_12.minLength) r.values12_nodup (fun e he => (r.values12_uint e he).2) (block12_eq h)
  refine ⟨decoded, hdecoded, fun id hid => ?_⟩
  obtain ⟨s, hs⟩ := spec?_12 id hid
  exact huint (id, s) (Table.mem_of_spec? hs)

/-- The two halves of a register that has something set in its low half. -/
theorem halves_or (device : Nat) {low : Nat} (h : low < 2 ^ 4) :
    (device ||| low) % 2 ^ 4 = device % 2 ^ 4 ||| low ∧ (device ||| low) / 2 ^ 4 = device / 2 ^ 4 := by
  constructor
  · rw [Nat.or_mod_two_pow, Nat.mod_eq_of_lt h]
  · rw [← Nat.shiftRight_eq_div_pow, Nat.shiftRight_or_distrib, Nat.shiftRight_eq_div_pow low, Nat.div_eq_of_lt h,
      Nat.or_zero, Nat.shiftRight_eq_div_pow]

/-- Decoding a 12-byte block gives all of a request but the low half of its device register, which is set in bits 27:24
of the address. -/
theorem contents_block12 (h : r.block12 = .ok b) :
    ∃ decoded, passThrough12.decode b = .ok decoded
      ∧ contents12 decoded = { r.contents .ataPassThrough12 with
          lba := r.taskfile.lba.toNat % 2 ^ 24
            + (r.taskfile.device.toNat % 2 ^ 4 ||| r.taskfile.lba.toNat / 2 ^ 24) * 2 ^ 24
          device := r.taskfile.device.toNat / 2 ^ 4 * 2 ^ 4 } := by
  obtain ⟨-, -, -, hlba⟩ := (block12_isOk_iff r).1 ⟨b, h⟩
  rw [UInt64.le_iff_toNat_le] at hlba
  have hhigh : r.taskfile.lba.toNat / 2 ^ 24 < 2 ^ 4 := Nat.div_lt_of_lt_mul (Nat.lt_succ_of_le hlba)
  obtain ⟨hlow, hhalf⟩ := halves_or r.taskfile.device.toNat hhigh
  obtain ⟨decoded, hdecoded, huint⟩ := decode_uint_block12 h
  refine ⟨decoded, hdecoded, ?_⟩
  -- the registers of the address are three of its digits to the base 256
  have hdigits : r.taskfile.lba.toNat % 256 + r.taskfile.lba.toNat / 0x100 % 256 * 2 ^ 8
      + r.taskfile.lba.toNat / 0x10000 % 256 * 2 ^ 16 = r.taskfile.lba.toNat % 2 ^ 24 := by omega
  simp only [contents12, contents16, huint, ne_eq, reduceCtorEq, not_false_eq_true, Contents.mk.injEq]
  refine ⟨rfl, rfl, rfl, rfl, rfl, rfl, rfl, rfl, rfl, rfl, rfl, ?_, ?_, rfl, rfl⟩
  · rw [← hlow, ← hdigits]
    rfl
  · rw [← hhalf]
    rfl

/-- **What the 12-byte block gives back**: with an address of 28 bits, the whole request exactly if it has nothing in
the low half of its device register. Byte 10 of the block and bit 0 of its byte 1 stay clear. -/
theorem decode_block12 (h : r.block12 = .ok b) :
    (∃ decoded, passThrough12.decode b = .ok decoded
      ∧ (contents12 decoded = r.contents .ataPassThrough12 ↔ r.taskfile.device.toNat % 2 ^ 4 = 0))
      ∧ b.length = 12 ∧ b.byteAt 10 = 0 ∧ b.bitAt 8 = false := by
  obtain ⟨decoded, hdecoded, hcontents⟩ := contents_block12 h
  -- no field of the block has these bits
  have hclear : ∀ pos, (∀ f ∈ passThrough12.fields, f.2.covers pos = false) → b.bitAt pos = false := by
    intro pos hno
    rw [Table.bitAt_of_encode_of_not_covers (block12_eq h) hno, bitAt_zeros]
  have hbyte : b.byteAt 10 = 0 := by
    apply eq_of_testBit
    intro k hk
    rw [testBit_byteAt _ _ hk, hclear _ (by revert k; decide)]
    exact (Nat.zero_testBit k).symm
  refine ⟨⟨decoded, hdecoded, ?_⟩, length_block12 h, hbyte, hclear 8 (by decide)⟩
  rw [hcontents]
  constructor
  · intro hwhole
    have hdevice : r.taskfile.device.toNat / 2 ^ 4 * 2 ^ 4 = r.taskfile.device.toNat :=
      congrArg Contents.device hwhole
    omega
  · intro hfree
    have hlba : r.taskfile.lba.toNat % 2 ^ 24 + r.taskfile.lba.toNat / 2 ^ 24 * 2 ^ 24 = r.taskfile.lba.toNat := by
      omega
    have hdevice : r.taskfile.device.toNat / 2 ^ 4 * 2 ^ 4 = r.taskfile.device.toNat := by omega
    rw [hfree, Nat.zero_or, hlba, hdevice]
    rfl

/-- A read of five sectors at an address of 28 bits, from the second of two disks. -/
def sectorsOfSecondDisk : PassThrough where
  protocol := 6
  direction := .fromDevice
  length := .sectorCount
  countsBlocks := true
  offLine := 1
  multipleCount := 5
  taskfile := { count := 5, lba := 0xabcdef1, device := 0xf0, command := 0xc8 }
  control := 0x80

theorem decode_sectorsOfSecondDisk :
    sectorsOfSecondDisk.block12 = .ok [0xa1, 0xac, 0x4e, 0, 5, 0xf1, 0xde, 0xbc, 0xfa, 0xc8, 0, 0x80]
      ∧ ∃ decoded, passThrough12.decode [0xa1, 0xac, 0x4e, 0, 5, 0xf1, 0xde, 0xbc, 0xfa, 0xc8, 0, 0x80] = .ok decoded
        ∧ contents12 decoded = sectorsOfSecondDisk.contents .ataPassThrough12
        ∧ (contents12 decoded).lba = 0xabcdef1 := by
  have h : sectorsOfSecondDisk.block12 = .ok [0xa1, 0xac, 0x4e, 0, 5, 0xf1, 0xde, 0xbc, 0xfa, 0xc8, 0, 0x80] := by
    decide +kernel
  obtain ⟨⟨decoded, hdecoded, hiff⟩, -⟩ := decode_block12 h
  have hcontents := hiff.2 (by decide)
  exact ⟨h, decoded, hdecoded, hcontents, by rw [hcontents]; rfl⟩

end PassThrough

end StorageCommands.Ata
