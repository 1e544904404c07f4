import StorageCommands.Proofs.Linux.Submission
import StorageCommands.Proofs.Nvme.Registers

/-!
# Queue entries, bit by bit

- `SubmissionEntry.LaidOut` and `CompletionEntry.LaidOut` say where the fields lie. Reading an entry and writing one are
  inverse to each other (`SubmissionEntry.toBytes_ofBytes`, `CompletionEntry.toBytes_ofBytes`, and the other way round).
- The packed fields of both entries share out the bits of their registers (`commandDword0_partitioned`,
  `completionStatus_partitioned`), and a status word keeps all of them but the phase tag
  (`CompletionEntry.status_keptFrom`).
- `CommandDescriptor.Rendered` says what the 64 bytes of a command are, and `rendered_submissionEntry` that they are so
  for every command that was built.

`queue_entries_exact` puts these together.
-/

namespace StorageCommands.Nvme

open Bytes

/-! ## Entries -/

/-- Where a command dword begins in a submission queue entry. -/
def Word.offset : Word → Nat
  | cdw10 => 40
  | cdw11 => 44
  | cdw12 => 48
  | cdw13 => 52
  | cdw14 => 56
  | cdw15 => 60

/-- Where the fields of a submission queue entry lie in its 64 bytes. -/
structure SubmissionEntry.LaidOut (e : SubmissionEntry) (b : Bytes) : Prop where
  length : b.length = 64
  cdw0 : (b.slice 0 4).littleEndian = e.cdw0.toNat
  nsid : (b.slice 4 4).littleEndian = e.nsid.toNat
  cdw2 : (b.slice 8 4).littleEndian = e.cdw2.toNat
  cdw3 : (b.slice 12 4).littleEndian = e.cdw3.toNat
  metadata : (b.slice 16 8).littleEndian = e.metadataPointer.toNat
  data : (b.slice 24 8).littleEndian = e.dataPointer.toNat
  secondData : (b.slice 32 8).littleEndian = e.secondDataPointer.toNat
  words : ∀ w : Word, (b.slice w.offset 4).littleEndian = (e.words.get w).toNat

theorem SubmissionEntry.laidOut_toBytes (e : SubmissionEntry) : e.LaidOut e.toBytes where
  length := rfl
  cdw0 := littleEndian_dwordBytes e.cdw0
  nsid := littleEndian_dwordBytes e.nsid
  cdw2 := littleEndian_dwordBytes e.cdw2
  cdw3 := littleEndian_dwordBytes e.cdw3
  metadata := littleEndian_qwordBytes e.metadataPointer
  data := littleEndian_qwordBytes e.dataPointer
  secondData := littleEndian_qwordBytes e.secondDataPointer
  words := fun w => by cases w <;> exact littleEndian_dwordBytes _

/-- **A submission queue entry** has the bytes that it was read from. -/
theorem SubmissionEntry.toBytes_ofBytes {b : Bytes} (h : b.length = 64) : (ofBytes b).toBytes = b := by
  have hdword : ∀ offset, offset + 4 ≤ 64 → dwordBytes (dwordAt b offset) = b.slice offset 4 := fun offset ho =>
    dwordBytes_dwordAt (by omega)
  have hqword : ∀ offset, offset + 8 ≤ 64 → qwordBytes (qwordAt b offset) = b.slice offset 8 := fun offset ho =>
    qwordBytes_qwordAt (by omega)
  have hslices : (ofBytes b).toBytes = (b.slices 0 [4, 4, 4, 4, 8, 8, 8, 4, 4, 4, 4, 4, 4]).flatten := by
    simp [toBytes, ofBytes, Words.toList, slices, hdword, hqword]
  rw [hslices, flatten_slices]
  exact List.take_of_length_le (Nat.le_of_eq h)

/-- A submission queue entry is read from its bytes. -/
theorem SubmissionEntry.ofBytes_toBytes (e : SubmissionEntry) : ofBytes e.toBytes = e := by
  obtain ⟨cdw0, nsid, cdw2, cdw3, metadata, data, secondData, words⟩ := e
  have hwords : (ofBytes (toBytes ⟨cdw0, nsid, cdw2, cdw3, metadata, data, secondData, words⟩)).words = words := by
    obtain ⟨cdw10, cdw11, cdw12, cdw13, cdw14, cdw15⟩ := words
    rw [ofBytes, Words.mk.injEq]
    exact ⟨dwordAt_of_slice rfl, dwordAt_of_slice rfl, dwordAt_of_slice rfl, dwordAt_of_slice rfl, dwordAt_of_slice rfl,
      dwordAt_of_slice rfl⟩
  rw [ofBytes, mk.injEq]
  exact ⟨dwordAt_of_slice rfl, dwordAt_of_slice rfl, dwordAt_of_slice rfl, dwordAt_of_slice rfl, qwordAt_of_slice rfl,
    qwordAt_of_slice rfl, qwordAt_of_slice rfl, hwords⟩

/-- Where the fields of a completion queue entry lie in its 16 bytes. -/
structure CompletionEntry.LaidOut (e : CompletionEntry) (b : Bytes) : Prop where
  length : b.length = 16
  dw0 : (b.slice 0 4).littleEndian = e.dw0.toNat
  dw1 : (b.slice 4 4).littleEndian = e.dw1.toNat
  queueHead : (b.slice 8 2).littleEndian = e.queueHead.toNat
  queueId : (b.slice 10 2).littleEndian = e.queueId.toNat
  commandId : (b.slice 12 2).littleEndian = e.commandId.toNat
  taggedStatus : (b.slice 14 2).littleEndian = e.taggedStatus.toNat

theorem CompletionEntry.laidOut_toBytes (e : CompletionEntry) : e.LaidOut e.toBytes where
  length := rfl
  dw0 := littleEndian_dwordBytes e.dw0
  dw1 := littleEndian_dwordBytes e.dw1
  queueHead := littleEndian_wordBytes e.queueHead
  queueId := littleEndian_wordBytes e.queueId
  commandId := littleEndian_wordBytes e.commandId
  taggedStatus := littleEndian_wordBytes e.taggedStatus

/-- **A completion queue entry** has the bytes that it was read from. -/
theorem CompletionEntry.toBytes_ofBytes {b : Bytes} (h : b.length = 16) : (ofBytes b).toBytes = b := by
  have hword : ∀ offset, offset + 2 ≤ 16 → wordBytes (wordAt b offset) = b.slice offset 2 := fun offset ho =>
    wordBytes_wordAt (by omega)
  have hdword : ∀ offset, offset + 4 ≤ 16 → dwordBytes (dwordAt b offset) = b.slice offset 4 := fun offset ho =>
    dwordBytes_dwordAt (by omega)
  have hslices : (ofBytes b).toBytes = (b.slices 0 [4, 4, 2, 2, 2, 2]).flatten := by
    simp [toBytes, ofBytes, slices, hword, hdword]
  rw [hslices, flatten_slices]
  exact List.take_of_length_le (Nat.le_of_eq h)

/-- A completion queue entry is read from its bytes. -/
theorem CompletionEntry.ofBytes_toBytes (e : CompletionEntry) : ofBytes e.toBytes = e := by
  obtain ⟨dw0, dw1, queueHead, queueId, commandId, taggedStatus⟩ := e
  rw [ofBytes, mk.injEq]
  exact ⟨dwordAt_of_slice rfl, dwordAt_of_slice rfl, wordAt_of_slice rfl, wordAt_of_slice rfl, wordAt_of_slice rfl,
    wordAt_of_slice rfl⟩

/-! ## Packed fields -/

theorem commandDword0_partitioned : commandDword0.Partitioned where
  within := by decide
  once := by decide

theorem completionStatus_partitioned : completionStatus.Partitioned where
  within := by decide
  once := by decide

/-- What is left of the status field of a completion entry without its phase tag. -/
structure StatusWord.KeptFrom (w : StatusWord) (b : Bytes) : Prop where
  raw : w.raw.toNat = b.readBits 113 15
  code : w.code.toNat = b.readBits 113 8
  type : w.type.toNat = b.readBits 121 3
  retryDelay : w.retryDelay.toNat = b.readBits 124 2
  more : w.more = b.bitAt 126
  doNotRetry : w.doNotRetry = b.bitAt 127

theorem CompletionEntry.toNat_status (b : Bytes) :
    (ofBytes b).status.raw.toNat = (b.slice 14 2).littleEndian >>> 1 := by
  rw [status, ofBytes, UInt16.toNat_shiftRight, toNat_wordAt]
  rfl

theorem CompletionEntry.testBit_status (b : Bytes) (i : Nat) :
    (ofBytes b).status.raw.toNat.testBit i = (decide (i < 15) && b.bitAt (113 + i)) := by
  rw [toNat_status, Nat.testBit_shiftRight, testBit_littleEndian, bitAt_slice]
  by_cases hi : i < 15
  · have hpos : 8 * 14 + (1 + i) = 113 + i := by omega
    rw [if_pos (by omega), hpos, decide_eq_true hi, Bool.true_and]
  · rw [if_neg (by omega), decide_eq_false hi, Bool.false_and]

/-- A field of a status word lies one bit higher in the entry, behind the phase tag. -/
theorem CompletionEntry.toNat_statusField (b : Bytes) (f : RegisterField) (hwidth : f.width ≤ 8)
    (h : f.offset + f.width ≤ 15) :
    (UInt8.ofNat (f.get (ofBytes b).status.raw.toNat)).toNat = b.readBits (113 + f.offset) f.width := by
  have hlt : f.get (ofBytes b).status.raw.toNat < 2 ^ 8 :=
    Nat.lt_of_lt_of_le (f.get_lt _) (Nat.pow_le_pow_right Nat.two_pos hwidth)
  rw [UInt8.toNat_ofNat', Nat.mod_eq_of_lt hlt]
  apply Nat.eq_of_testBit_eq
  intro i
  rw [f.testBit_get, testBit_status, testBit_readBits]
  by_cases hi : i < f.width
  · rw [decide_eq_true (show f.offset + i < 15 by omega), Bool.true_and, Nat.add_assoc]
  · rw [decide_eq_false hi, Bool.false_and, Bool.false_and]

/-- The status word of a completion keeps all fields of the status but the phase tag. -/
theorem CompletionEntry.status_keptFrom (b : Bytes) : (ofBytes b).status.KeptFrom b where
  raw := by
    apply Nat.eq_of_testBit_eq
    intro i
    rw [testBit_status, testBit_readBits]
  code := toNat_statusField b StatusWord.codeField (by decide) (by decide)
  type := toNat_statusField b StatusWord.typeField (by decide) (by decide)
  retryDelay := toNat_statusField b StatusWord.retryDelayField (by decide) (by decide)
  more := (RegisterField.test_bit ..).trans (testBit_status b 13)
  doNotRetry := (RegisterField.test_bit ..).trans (testBit_status b 14)

/-! ## Commands -/

/-- The 64 bytes say what the command is. Buffers without a byte have no address. -/
structure CommandDescriptor.Rendered (d : CommandDescriptor) (place : Placement) (b : Bytes) : Prop where
  length : b.length = 64
  opcode : b.slice 0 4 = [d.opcode.code, 0, 0, 0]
  nsid : (b.slice 4 4).littleEndian = d.nsid.toNat
  cdw2 : (b.slice 8 4).littleEndian = d.cdw2.toNat
  cdw3 : (b.slice 12 4).littleEndian = d.cdw3.toNat
  metadata : (b.slice 16 8).littleEndian = if d.metadataLength = 0 then 0 else place.metadata.toNat
  data : (b.slice 24 8).littleEndian = if d.dataLength = 0 then 0 else place.data.toNat
  secondData : (b.slice 32 8).littleEndian = 0
  words : ∀ w : Word, (b.slice w.offset 4).littleEndian = (d.words.get w).toNat

/-- The data of a command that was built has an address if there are any. -/
theorem dataPointer_of_build {b : CommandBuilder} {d : CommandDescriptor} (h : b.build = .ok d) (effects : List Effect)
    (place : Placement) : ((d.afterAll effects).submissionEntry place).dataPointer
      = if (d.afterAll effects).dataLength = 0 then 0 else place.data := by
  rw [CommandDescriptor.submissionEntry, CommandDescriptor.dataLength]
  cases ht : d.transfer with
  | none =>
    rw [CommandDescriptor.afterAll_transfer_none ht]
    rfl
  | some t =>
    obtain ⟨t', ht', k⟩ := CommandDescriptor.afterAll_transfer ht effects
    have hlen : t'.len ≠ 0 := k.len ▸ (Linux.transfer_of_build h t ht).1
    have hsize := Linux.size_ne_zero_of_build h effects t' ht'
    rw [ht', Option.elim_some, Option.elim_some, if_neg hlen, DataBuffer.address, if_neg hsize]

theorem metadataPointer_eq (d : CommandDescriptor) (place : Placement) :
    (d.submissionEntry place).metadataPointer = if d.metadataLength = 0 then 0 else place.metadata := by
  rw [CommandDescriptor.submissionEntry, CommandDescriptor.metadataLength]
  cases d.metadata with
  | none => rfl
  | some buffer => rfl

/-- **The entry of a command that was built**, also one that transports have had, says what the command is. -/
theorem rendered_submissionEntry {b : CommandBuilder} {d : CommandDescriptor} (h : b.build = .ok d)
    (effects : List Effect) (place : Placement) :
    (d.afterAll effects).Rendered place ((d.afterAll effects).submissionEntry place).toBytes := by
  have hdata := dataPointer_of_build h effects place
  have hmetadata := metadataPointer_eq (d.afterAll effects) place
  generalize d.afterAll effects = command at hdata hmetadata
  have hentry := (command.submissionEntry place).laidOut_toBytes
  have hdata' := hentry.data
  have hmetadata' := hentry.metadata
  rw [hdata, apply_ite UInt64.toNat] at hdata'
  rw [hmetadata, apply_ite UInt64.toNat] at hmetadata'
  exact
    { length := hentry.length
      opcode := Linux.dwordBytes_toUInt32 command.opcode.code
      nsid := hentry.nsid
      cdw2 := hentry.cdw2
      cdw3 := hentry.cdw3
      metadata := hmetadata'
      data := hdata'
      secondData := hentry.secondData
      words := hentry.words }

/-- **Queue entries are exact.**

The entry of a command that was built says what the command is, byte by byte. All entries have their fields at the same
places, and are read and written without loss, in both directions. The packed fields in front of a submission queue
entry are the bits of its first 4 bytes, each in one field, and those at the end of a completion queue entry the bits of
its last 2. The status word of a completion has these but for the phase tag. -/
theorem queue_entries_exact :
    (∀ (b : CommandBuilder) (d : CommandDescriptor), b.build = .ok d → ∀ (effects : List Effect) (place : Placement),
      (d.afterAll effects).Rendered place ((d.afterAll effects).submissionEntry place).toBytes)
    ∧ (∀ e : SubmissionEntry, e.LaidOut e.toBytes ∧ .ofBytes e.toBytes = e)
    ∧ (∀ b : Bytes, b.length = 64 → (SubmissionEntry.ofBytes b).toBytes = b ∧ commandDword0.Partitioned
        ∧ commandDword0.fields.map (fun f => (f.name, f.get (SubmissionEntry.ofBytes b).cdw0.toNat))
          = [("opcode", b.readBits 0 8), ("fuse", b.readBits 8 2), ("reserved", b.readBits 10 4),
            ("psdt", b.readBits 14 2), ("cid", b.readBits 16 16)])
    ∧ (∀ e : CompletionEntry, e.LaidOut e.toBytes ∧ .ofBytes e.toBytes = e)
    ∧ ∀ b : Bytes, b.length = 16 → (CompletionEntry.ofBytes b).toBytes = b ∧ completionStatus.Partitioned
        ∧ completionStatus.fields.map (fun f => (f.name, f.get (CompletionEntry.ofBytes b).taggedStatus.toNat))
          = [("phase", b.readBits 112 1), ("status", b.readBits 113 11), ("crd", b.readBits 124 2),
            ("more", b.readBits 126 1), ("dnr", b.readBits 127 1)]
        ∧ (CompletionEntry.ofBytes b).status.KeptFrom b := by
  refine ⟨fun b d hd effects place => rendered_submissionEntry hd effects place,
    fun e => ⟨e.laidOut_toBytes, e.ofBytes_toBytes⟩,
    fun b hb => ⟨SubmissionEntry.toBytes_ofBytes hb, commandDword0_partitioned, ?_⟩,
    fun e => ⟨e.laidOut_toBytes, e.ofBytes_toBytes⟩, fun b hb => ⟨CompletionEntry.toBytes_ofBytes hb,
      completionStatus_partitioned, ?_, CompletionEntry.status_keptFrom b⟩⟩
  · have hfields := commandDword0_partitioned.fields_littleEndian b 0
    rw [SubmissionEntry.ofBytes, toNat_dwordAt]
    exact hfields
  · have hfields := completionStatus_partitioned.fields_littleEndian b 14
    rw [CompletionEntry.ofBytes, toNat_wordAt]
    exact hfields

/-- A write of 8 bytes, with an empty metadata buffer. -/
def writeWithoutMetadata : CommandBuilder where
  opcode := .io 1
  nsid := 0x01020304
  words := { cdw10 := 0xA0, cdw15 := 0xF0 }
  transferLength := some 8
  metadata := some ⟨[]⟩

/-- The write has an address for its data only. A completion is read with its phase tag set, and its status without. -/
theorem queue_entries_exact_write : (∃ d, writeWithoutMetadata.build = .ok d
      ∧ d.Rendered ⟨0x1000, 0x2000⟩ (d.submissionEntry ⟨0x1000, 0x2000⟩).toBytes
      ∧ ((d.submissionEntry ⟨0x1000, 0x2000⟩).toBytes.slice 24 8).littleEndian = 0x1000)
    ∧ (let b : Bytes := zeros 14 ++ [0x05, 0xC3]
      (CompletionEntry.ofBytes b).toBytes = b ∧ (CompletionEntry.ofBytes b).status.KeptFrom b
        ∧ (CompletionEntry.ofBytes b).status.code.toNat = 0x82) := by
  obtain ⟨hrendered, -, -, -, hcompletion⟩ := queue_entries_exact
  constructor
  · have h := hrendered writeWithoutMetadata _ rfl [] ⟨0x1000, 0x2000⟩
    exact ⟨_, rfl, h, h.data⟩
  · intro b
    obtain ⟨hbytes, -, -, hkept⟩ := hcompletion b rfl
    exact ⟨hbytes, hkept, hkept.code.trans (by decide +kernel)⟩

end StorageCommands.Nvme
