import StorageCommands.Proofs.Scsi.DeclaredLength

/-!
# Reading sense data back

Sense data in fixed format is stored in 18 bytes. If it declares them all, then decoding them, with anything after them,
gives its fields back.

- `SenseData.ofBytes_toBytes`: the 18 bytes determine the sense data.
- `decode_toBytes`: neither the declared length, of 10 or more bytes, nor what follows the 18 bytes makes a difference.
- `sense_round_trip`: each field that is decoded, and when it is the report of the registers of an ATA command.
-/

namespace StorageCommands.Scsi

open Bytes

/-! ## The 18 bytes -/

namespace SenseData

variable (s : SenseData)

theorem length_toBytes : s.toBytes.length = senseLength := rfl

theorem byteAt_toBytes_length : s.toBytes.byteAt 7 = s.additionalLength := rfl

/-- An integer of 32 bits is what its four bytes give back. -/
theorem ofNat_bigEndian (v : UInt32) : UInt32.ofNat (ofBigEndian 4 v.toNat).bigEndian = v := by
  have hread := ByteOrder.big.read_write 4 v.toNat
  rw [Nat.mod_eq_of_lt v.toNat_lt] at hread
  exact (congrArg UInt32.ofNat hread).trans v.ofNat_toNat

theorem ofBytes_toBytes : ofBytes s.toBytes = s := by
  have hinformation : (ofBytes s.toBytes).information = s.information := ofNat_bigEndian s.information
  have hspecific : (ofBytes s.toBytes).commandSpecific = s.commandSpecific := ofNat_bigEndian s.commandSpecific
  calc ofBytes s.toBytes
      = { s with
          information := (ofBytes s.toBytes).information
          commandSpecific := (ofBytes s.toBytes).commandSpecific } := rfl
    _ = s := by rw [hinformation, hspecific]

/-- The 18 bytes fill the window that is decoded. -/
theorem window_toBytes : s.toBytes.window 0 senseLength = s.toBytes := by
  apply eq_of_byteAt (by rw [length_window, length_toBytes])
  intro i hi
  rw [length_window] at hi
  rw [byteAt_window, if_pos hi, Nat.zero_add]

/-- If the sense data declares all its bytes, they are what is stored, whatever follows. -/
theorem stored_toBytes (tail : Bytes) (hlen : 10 ≤ s.additionalLength.toNat) : stored (s.toBytes ++ tail) = s := by
  have hvisible : visible s.toBytes = s.toBytes := by
    refine List.take_of_length_le ?_
    rw [length_toBytes, byteAt_toBytes_length, senseLength]
    omega
  have hown : stored s.toBytes = s := by rw [stored, hvisible, window_toBytes, ofBytes_toBytes]
  refine (stored_congr ?_ fun i _ hi => ?_).trans hown
  · exact List.take_append_of_le_length (by rw [length_toBytes]; decide)
  · rw [byteAt_append, if_pos (by rw [length_toBytes, senseLength]; omega)]

/-! ## New sense data -/

section

variable (key : SenseKey) (code : AdditionalSenseCode) (qualifier : UInt8)

theorem response_new : (new key code qualifier).response = 0x70 := rfl

theorem additionalLength_new : (new key code qualifier).additionalLength = 10 := rfl

/-- New sense data keeps the low four bits of its key. -/
theorem key_new : (new key code qualifier).key.toNat = key.toNat % 2 ^ 4 := by
  have hset : senseKeyField.set 0 key.toNat = key.toNat % 2 ^ 4 := by
    simp [RegisterField.set, RegisterField.get, senseKeyField, RegisterField.number]
  rw [new, hset, UInt8.toNat_ofNat']
  exact Nat.mod_eq_of_lt (Nat.lt_trans (Nat.mod_lt _ (by decide)) (by decide))

/-- No flag is set beside the key. -/
theorem testBit_key_new {i : Nat} (h : 4 ≤ i) : (new key code qualifier).key.toNat.testBit i = false := by
  rw [key_new, Nat.testBit_mod_two_pow, decide_eq_false (by omega), Bool.false_and]

end

end SenseData

/-! ## The fields -/

namespace FixedSense

/-- Each field is the one of the sense data, with the packed bytes taken apart. -/
structure Reflects (f : FixedSense) (s : SenseData) : Prop where
  responseCode : f.responseCode.toNat = s.response.toNat % 2 ^ 7
  valid : f.valid = s.response.toNat.testBit 7
  key : f.key.toNat = s.key.toNat % 2 ^ 4
  incorrectLength : f.incorrectLength = s.key.toNat.testBit 5
  endOfMedia : f.endOfMedia = s.key.toNat.testBit 6
  fileMark : f.fileMark = s.key.toNat.testBit 7
  information : f.information = s.information
  commandSpecific : f.commandSpecific = s.commandSpecific
  code : f.code = s.code
  qualifier : f.qualifier = s.qualifier
  fieldReplaceableUnit : f.fieldReplaceableUnit = s.fieldReplaceableUnit
  keySpecific : f.keySpecific = s.keySpecific

theorem reflects_ofData (s : SenseData) : (ofData s).Reflects s where
  responseCode := toNat_get _ (by decide) _
  valid := RegisterField.test_bit ..
  key := toNat_get _ (by decide) _
  incorrectLength := RegisterField.test_bit ..
  endOfMedia := RegisterField.test_bit ..
  fileMark := RegisterField.test_bit ..
  information := rfl
  commandSpecific := rfl
  code := rfl
  qualifier := rfl
  fieldReplaceableUnit := rfl
  keySpecific := rfl

theorem readFrom_toBytes (s : SenseData) : (ofData s).ReadFrom s.toBytes := by
  have hread := readFrom_window s.toBytes
  rwa [SenseData.window_toBytes, SenseData.ofBytes_toBytes] at hread

/-- **The round trip**, for a declared length that reaches the end of the 18 bytes. -/
theorem decode_toBytes {s : SenseData} (tail : Bytes) (hcode : s.response.toNat % 2 ^ 7 ∈ [0x70, 0x71])
    (hlen : 10 ≤ s.additionalLength.toNat) : decode (s.toBytes ++ tail) = .ok (ofData s) := by
  refine decode_eq_ok_iff.2 ⟨by rw [s.stored_toBytes tail hlen], ?_, ?_⟩
  · rw [List.length_append, s.length_toBytes, senseLength]
    omega
  · rw [byteAt_append, s.length_toBytes, if_pos (by decide)]
    exact hcode

theorem Reflects.hasAtaStatus_iff {f : FixedSense} {s : SenseData} (h : f.Reflects s) :
    f.hasAtaStatus ↔ s.key.toNat % 2 ^ 4 = 1 ∧ s.code = 0 ∧ s.qualifier = 0x1d := by
  have hkey : f.key = 1 ↔ s.key.toNat % 2 ^ 4 = 1 := by
    rw [← h.key, ← UInt8.toNat_inj]
    rfl
  rw [← hkey, ← h.code, ← h.qualifier]
  simp only [hasAtaStatus, Bool.and_eq_true, decide_eq_true_eq, and_assoc]
  exact Iff.rfl

/-! ## What new sense data says -/

/-- What sense data with no more than a key, a code and a qualifier is decoded to. -/
def brief (key : SenseKey) (code : AdditionalSenseCode) (qualifier : UInt8) : FixedSense where
  responseCode := .fixedCurrent
  valid := false
  key
  incorrectLength := false
  endOfMedia := false
  fileMark := false
  information := 0
  commandSpecific := 0
  code
  qualifier
  fieldReplaceableUnit := 0
  keySpecific := (0, 0, 0)

section

variable (key : SenseKey) (code : AdditionalSenseCode) (qualifier : UInt8)

theorem ofData_new :
    ofData (.new key code qualifier) = brief (UInt8.ofNat (key.toNat % 2 ^ 4)) code qualifier := by
  have h := reflects_ofData (.new key code qualifier)
  have hvalid : (ofData (.new key code qualifier)).valid = false := by rw [h.valid, SenseData.response_new]; rfl
  have hkey : (ofData (.new key code qualifier)).key = UInt8.ofNat (key.toNat % 2 ^ 4) := by
    rw [← UInt8.ofNat_toNat (x := (ofData _).key), h.key, SenseData.key_new, Nat.mod_mod]
  have hlength := h.incorrectLength.trans (SenseData.testBit_key_new key code qualifier (by decide))
  have hmedia := h.endOfMedia.trans (SenseData.testBit_key_new key code qualifier (by decide))
  have hmark := h.fileMark.trans (SenseData.testBit_key_new key code qualifier (by decide))
  calc ofData (.new key code qualifier)
      = { brief (ofData (.new key code qualifier)).key code qualifier with
          valid := (ofData (.new key code qualifier)).valid
          incorrectLength := (ofData (.new key code qualifier)).incorrectLength
          endOfMedia := (ofData (.new key code qualifier)).endOfMedia
          fileMark := (ofData (.new key code qualifier)).fileMark } := rfl
    _ = brief (UInt8.ofNat (key.toNat % 2 ^ 4)) code qualifier := by
      rw [hvalid, hkey, hlength, hmedia, hmark]
      rfl

end

/-- **Sense data read back.**

For sense data in fixed format that declares at least the bytes up to its own end, and for anything that follows its 18
bytes: decoding succeeds, also when it is done step by step. Each field is the one that was stored, the packed bytes
taken apart, and so it is what the bytes say in its place; and the report of the registers of an ATA command is
recognised by its key, its code and its qualifier. New sense data is of this kind, with any key, code and qualifier. -/
theorem sense_round_trip :
    (∀ (s : SenseData) (tail : Bytes), s.response.toNat % 2 ^ 7 ∈ [0x70, 0x71] → 10 ≤ s.additionalLength.toNat →
      ∃ f, decode (s.toBytes ++ tail) = .ok f ∧ Stepwise.decode (s.toBytes ++ tail) = .ok f
        ∧ f.Reflects s ∧ f.ReadFrom s.toBytes
        ∧ (f.hasAtaStatus ↔ s.key.toNat % 2 ^ 4 = 1 ∧ s.code = 0 ∧ s.qualifier = 0x1d))
    ∧ (∀ (key : SenseKey) (code : AdditionalSenseCode) (qualifier : UInt8),
      (SenseData.new key code qualifier).response.toNat % 2 ^ 7 = 0x70
        ∧ (SenseData.new key code qualifier).additionalLength = 10
        ∧ ∀ tail, decode ((SenseData.new key code qualifier).toBytes ++ tail)
            = .ok (brief (UInt8.ofNat (key.toNat % 2 ^ 4)) code qualifier)) := by
  constructor
  · intro s tail hcode hlen
    have hdecode := decode_toBytes tail hcode hlen
    refine ⟨ofData s, hdecode, ?_, reflects_ofData s, readFrom_toBytes s, (reflects_ofData s).hasAtaStatus_iff⟩
    rw [Stepwise.decode_eq, hdecode]
    rfl
  · intro key code qualifier
    refine ⟨rfl, SenseData.additionalLength_new key code qualifier, fun tail => ?_⟩
    rw [← ofData_new]
    exact decode_toBytes tail (by rw [SenseData.response_new]; decide) (by rw [SenseData.additionalLength_new]; decide)

/-- Deferred sense data with all flags and a declared length of 255, and four bytes after it; and new sense data that
reports the registers of an ATA command. -/
theorem sense_round_trip_flags :
    (let s : SenseData := ⟨0xf1, 3, 0xe1, 0x01020304, 255, 0xfffefdfc, 0, 0x1d, 4, (5, 6, 7)⟩
    ∃ f, decode (s.toBytes ++ [1, 2, 3, 4]) = .ok f ∧ f.responseCode = 0x71 ∧ f.valid ∧ f.fileMark
      ∧ f.information = 0x01020304 ∧ f.hasAtaStatus
      ∧ decode ((SenseData.new 1 0 0x1d).toBytes ++ [1]) = .ok (brief 1 0 0x1d)) := by
  intro s
  obtain ⟨hall, hnew⟩ := sense_round_trip
  obtain ⟨f, hf, -, h, -, hata⟩ := hall s [1, 2, 3, 4] (by decide) (by decide)
  obtain ⟨-, -, hdecode⟩ := hnew 1 0 0x1d
  exact ⟨f, hf, UInt8.toNat_inj.1 (h.responseCode.trans (by decide)), h.valid.trans (by decide),
    h.fileMark.trans (by decide), h.information, hata.2 ⟨by decide, rfl, rfl⟩, hdecode [1]⟩

end FixedSense

end StorageCommands.Scsi
