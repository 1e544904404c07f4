import StorageCommands.Ata.Identity
import StorageCommands.Proofs.EventLog.EventData

/-!
# Sector sizes of a disk

A description states the size of a logical sector in 16-bit words, with 32 bits for their number, and how many logical
sectors a physical one holds, as a power of two of up to 2 ^ 15 (`statedLogicalSize`, `statedPhysicalSize`). Both sizes
are decoded into 32 bits.

- `Stepwise.decode_eq`: done step by step, decoding a description halts only with a report. A product of machine words
  and a shift that could be too large are neither, and every byte that is taken is there.
- `sector_sizes`: what is decoded is the low 32 bits of the sizes that are stated, so they are exact only if the size of
  a physical sector has no more. Larger ones are not refused, and their high bits are lost (`high_bits_lost`).
-/

namespace StorageCommands

open Bytes Layout

/-! ## Integers under a mask -/

namespace Layout

/-- The bits under a mask of ones, moved down. -/
theorem and_ones_shiftRight (w n k : Nat) : (w &&& (2 ^ n - 1) <<< k) >>> k = w / 2 ^ k % 2 ^ n := by
  rw [Nat.shiftRight_and_distrib, Nat.shiftLeft_shiftRight, Nat.and_two_pow_sub_one_eq_mod, Nat.shiftRight_eq_div_pow]

namespace Table

variable {ι : Type} [DecidableEq ι] [Named ι] {t : Table ι} {b : Bytes} {v : Values ι} {id : ι}

/-- The integer under a mask of `n` ones from bit `k` on. -/
theorem uint_mask {offset m : Nat} (h : t.decode b = .ok v) (hs : t.spec? id = some (.mask offset m .little))
    (n k len : Nat) (hn : 0 < n) (hm : m = (2 ^ n - 1) <<< k) (hlen : maskWidth m = len) :
    v.uint id = (b.slice offset len).littleEndian / 2 ^ k % 2 ^ n := by
  have hk : trailingZeros m = k := by rw [hm, trailingZeros_ones_shiftLeft hn]
  refine uint_of_decode h hs ?_
  rw [Spec.read, hk, hlen, ByteOrder.read, ← and_ones_shiftRight, hm]

/-- A flag is one bit of the bytes that its mask spans. -/
theorem flag_mask {offset m : Nat} (h : t.decode b = .ok v) (hs : t.spec? id = some (.mask offset m .little))
    (k len : Nat) (hm : m = (2 ^ 1 - 1) <<< k) (hlen : maskWidth m = len) :
    v.flag id = (b.slice offset len).littleEndian.testBit k := by
  have hflag : v.flag id = decide (v.uint id ≠ 0) := by
    rw [Values.flag, Values.uint, Values.uint?, get?_of_decode h, hs, Option.map_some, Spec.read]
    rfl
  rw [hflag, uint_mask h hs 1 k len Nat.one_pos hm hlen, Nat.testBit_eq_decide_div_mod_eq, Nat.pow_one]
  exact decide_eq_decide.2 Nat.mod_two_ne_zero

end Table

end Layout

namespace Ata

/-! ## What a description states -/

/-- Word 106, on the sizes of sectors. It is valid if its bits 15:14 are 01. -/
def sizesWord (data : Bytes) : Nat := (data.slice 212 2).littleEndian

/-- The size of a logical sector, in bytes. Words 117 and 118 say how many words of 16 bits it has, if bit 12 is set. -/
def statedLogicalSize (data : Bytes) : Nat :=
  if sizesWord data / 2 ^ 14 = 1 ∧ (sizesWord data).testBit 12 then 2 * (data.slice 234 4).littleEndian else 512

/-- How many logical sectors a physical one holds, as a power of two: the low half byte of word 106, if bit 13 is
set. -/
def statedExponent (data : Bytes) : Nat :=
  if sizesWord data / 2 ^ 14 = 1 ∧ (sizesWord data).testBit 13 then sizesWord data % 2 ^ 4 else 0

/-- The size of a physical sector, in bytes. -/
def statedPhysicalSize (data : Bytes) : Nat := statedLogicalSize data * 2 ^ statedExponent data

namespace Identity

variable {data : Bytes}

section

variable {v : Values IdentityField} (h : identityTable.decode data = .ok v)
include h

theorem uint_sectorSizeValid : v.uint .sectorSizeValid = sizesWord data / 2 ^ 14 := by
  have hlt : sizesWord data < 2 ^ (8 * 2) := littleEndian_slice_lt data 212 2
  rw [Table.uint_mask h rfl 2 14 2 (by decide) (by decide) (by decide), ← sizesWord]
  omega

theorem flag_logicalLongerThan256Words : v.flag .logicalLongerThan256Words = (sizesWord data).testBit 12 :=
  Table.flag_mask h rfl 12 2 (by decide) (by decide)

theorem flag_multipleLogicalPerPhysical : v.flag .multipleLogicalPerPhysical = (sizesWord data).testBit 13 :=
  Table.flag_mask h rfl 13 2 (by decide) (by decide)

/-- The exponent is in the lower byte of word 106. -/
theorem uint_logicalPerPhysicalLog2 : v.uint .logicalPerPhysicalLog2 = sizesWord data % 2 ^ 4 := by
  have hbyte : (data.slice 212 1).littleEndian = sizesWord data % 2 ^ 8 := by
    rw [sizesWord, ← readBits_eq_littleEndian, ← readBits_eq_littleEndian, readBits_eq_div_mod, readBits_eq_div_mod]
    omega
  rw [Table.uint_mask h rfl 4 0 1 (by decide) (by decide) (by decide), hbyte]
  omega

theorem uint_logicalSectorWords : v.uint .logicalSectorWords = (data.slice 234 4).littleEndian :=
  Table.uint_of_decode h rfl rfl

end

/-! ## Step by step -/

namespace Stepwise

open EventLog.Stepwise

/-- Multiplies machine words. -/
def multiply (m n : Nat) : Work Layout.Error Nat := if m * n < 2 ^ 64 then .ok (m * n) else .error .overflow

/-- Shifts an integer of 32 bits to the left, by fewer than 32 places. -/
def shiftLeft (n : UInt32) (k : Nat) : Work Layout.Error UInt32 :=
  if k < 32 then .ok (UInt32.ofNat (n.toNat <<< k)) else .error .overflow

/-- Takes a byte. -/
def takeByte (b : Bytes) (i : Nat) : Work Layout.Error UInt8 :=
  match b[i]? with
  | some x => .ok x
  | none => .error .outOfBounds

/-- The two characters of a word, in their order. -/
def characters (word : Bytes) : Work Layout.Error Bytes := do
  let first ← takeByte word 1
  let second ← takeByte word 0
  return [first, second]

/-- The text of a string. -/
def stringText (raw : Bytes) : Work Layout.Error String := do
  let words ← (EventLog.wholeWindows 2 raw).mapM characters
  return String.ofList (Padded.trim (Utf8.decode words.flatten))

/-- The text of a string field, empty if there is none. -/
def string (v : Values IdentityField) (id : IdentityField) : Work Layout.Error String :=
  match v.bytes? id with
  | some raw => stringText raw
  | none => return ""

/-- The size of a logical sector. -/
def logicalSize (v : Values IdentityField) : Work Layout.Error UInt32 :=
  if v.uint .sectorSizeValid = 1 ∧ v.flag .logicalLongerThan256Words then do
    return UInt32.ofNat (← multiply (v.uint .logicalSectorWords) 2)
  else
    return 512

/-- The size of a physical sector. -/
def physicalSize (v : Values IdentityField) (logical : UInt32) : Work Layout.Error UInt32 :=
  if v.uint .sectorSizeValid = 1 ∧ v.flag .multipleLogicalPerPhysical then
    shiftLeft logical (v.uint .logicalPerPhysicalLog2)
  else
    return logical

/-- Reads the description of a disk. -/
def decode (data : Bytes) : Work Layout.Error Identity := do
  let v ← EventLog.Stepwise.decode identityTable id data
  let logical ← logicalSize v
  let physical ← physicalSize v logical
  let serialNumber ← string v .serialNumber
  let firmwareRevision ← string v .firmwareRevision
  let modelNumber ← string v .modelNumber
  return {
    serialNumber
    firmwareRevision
    modelNumber
    lbaSupported := v.flag .lbaSupported
    lba48Supported := v.flag .lba48Supported
    smartSupported := v.flag .smartSupported
    smartEnabled := v.flag .smartEnabled
    sectors := UInt64.ofNat
      (if v.flag .lba48Supported then v.uint .lba48Sectors % 0x1000000000000 else v.uint .lba28Sectors)
    logicalSectorSize := logical
    physicalSectorSize := physical
    rotationRate := RotationRate.ofReported (v.uint .rotationRate) }

theorem takeByte_eq {b : Bytes} {i : Nat} (h : i < b.length) : takeByte b i = .ok (b.byteAt i) := by
  rw [takeByte, List.getElem?_eq_getElem h, byteAt_eq_getElem h]

/-- The words of a string have two bytes each. -/
theorem mapM_characters (raw : Bytes) :
    (EventLog.wholeWindows 2 raw).mapM characters
      = .ok ((EventLog.wholeWindows 2 raw).map fun word => [word.byteAt 1, word.byteAt 0]) := by
  refine mapM_eq_ok fun word hword => ?_
  have hlength := EventLog.length_of_mem_wholeWindows hword
  rw [characters, bind_ok _ (takeByte_eq (i := 1) (by omega)), bind_ok _ (takeByte_eq (i := 0) (by omega))]
  rfl

/-- Word by word, the bytes of each pair are swapped. -/
theorem flatten_words (raw : Bytes) :
    ((EventLog.wholeWindows 2 raw).map fun word => [word.byteAt 1, word.byteAt 0]).flatten = swapPairs raw := by
  induction raw using swapPairs.induct with
  | case1 a b rest ih =>
    have hfirst : EventLog.wholeWindows 2 (a :: b :: rest) = [a, b] :: EventLog.wholeWindows 2 rest :=
      EventLog.wholeWindows_append Nat.two_pos (w := [a, b]) rfl rest
    rw [hfirst, List.map_cons, List.flatten_cons, ih, swapPairs]
    rfl
  | case2 raw hshort =>
    match raw with
    | [] => rfl
    | [a] => simp [EventLog.wholeWindows, swapPairs]
    | a :: b :: rest => exact absurd rfl (hshort a b rest)

theorem string_eq (v : Values IdentityField) (id : IdentityField) : string v id = .ok (Identity.string v id) := by
  rw [string, Identity.string]
  cases v.bytes? id with
  | none => rfl
  | some raw =>
    dsimp only
    rw [stringText, bind_ok _ (mapM_characters raw), flatten_words]
    rfl

section

variable {v : Values IdentityField} (h : identityTable.decode data = .ok v)
include h

/-- Twice a number of 32 bits is a machine word. -/
theorem logicalSize_eq : logicalSize v = .ok
    (if v.uint .sectorSizeValid = 1 ∧ v.flag .logicalLongerThan256Words then
      UInt32.ofNat (v.uint .logicalSectorWords * 2)
    else 512) := by
  have hwords : v.uint .logicalSectorWords < 2 ^ (8 * 4) := Table.uint_lt h rfl
  have hdouble : multiply (v.uint .logicalSectorWords) 2 = .ok (v.uint .logicalSectorWords * 2) :=
    if_pos (by omega)
  rw [logicalSize]
  split
  · rw [bind_ok _ hdouble]
    rfl
  · rfl

/-- The exponent has four bits. -/
theorem physicalSize_eq (logical : UInt32) : physicalSize v logical = .ok
    (if v.uint .sectorSizeValid = 1 ∧ v.flag .multipleLogicalPerPhysical then
      UInt32.ofNat (logical.toNat <<< v.uint .logicalPerPhysicalLog2)
    else logical) := by
  have hexponent := uint_logicalPerPhysicalLog2 h
  have hshift : shiftLeft logical (v.uint .logicalPerPhysicalLog2)
      = .ok (UInt32.ofNat (logical.toNat <<< v.uint .logicalPerPhysicalLog2)) :=
    if_pos (by omega)
  rw [physicalSize]
  split
  · exact hshift
  · rfl

end

/-- **Decoding a description** halts only where it ends before a field does, and reports that. -/
theorem decode_eq (data : Bytes) : decode data = (Identity.decode data).mapError .refused := by
  rw [decode, Identity.decode, EventLog.Stepwise.decode_eq (by decide)]
  cases hv : identityTable.decode data with
  | error e => rfl
  | ok v =>
    have hdecode : (Except.ok v).mapError (fun e => Halt.refused (id e))
        = (.ok v : Work Layout.Error (Values IdentityField)) := rfl
    rw [bind_ok _ hdecode, bind_ok _ (logicalSize_eq hv), bind_ok _ (physicalSize_eq hv _), bind_ok _ (string_eq v _),
      bind_ok _ (string_eq v _), bind_ok _ (string_eq v _)]
    rfl

end Stepwise

/-! ## The sizes that are decoded -/

variable {id : Identity}

/-- A description is decoded if it has all fields. -/
theorem exists_decode (h : identityTable.minLength ≤ data.length) : ∃ id, decode data = .ok id := by
  obtain ⟨v, hv⟩ := Table.decode_isOk_iff.2 h
  exact ⟨_, bind_eq_ok.2 ⟨v, hv, rfl⟩⟩

/-- The sizes keep their low 32 bits. -/
theorem sizes_of_decode (h : decode data = .ok id) :
    id.logicalSectorSize.toNat = statedLogicalSize data % 2 ^ 32
      ∧ id.physicalSectorSize.toNat = statedPhysicalSize data % 2 ^ 32 := by
  obtain ⟨v, hv, ⟨⟩⟩ := bind_eq_ok.1 h
  have hlogical : (if v.uint .sectorSizeValid = 1 ∧ v.flag .logicalLongerThan256Words then
      UInt32.ofNat (v.uint .logicalSectorWords * 2) else 512).toNat = statedLogicalSize data % 2 ^ 32 := by
    rw [uint_sectorSizeValid hv, flag_logicalLongerThan256Words hv, uint_logicalSectorWords hv, statedLogicalSize]
    split
    · rw [UInt32.toNat_ofNat', Nat.mul_comm]
    · rfl
  refine ⟨hlogical, ?_⟩
  dsimp only
  generalize (if v.uint .sectorSizeValid = 1 ∧ v.flag .logicalLongerThan256Words then
      UInt32.ofNat (v.uint .logicalSectorWords * 2) else 512 : UInt32) = logical at hlogical ⊢
  rw [uint_sectorSizeValid hv, flag_multipleLogicalPerPhysical hv, uint_logicalPerPhysicalLog2 hv, statedPhysicalSize,
    statedExponent]
  split
  · rw [UInt32.toNat_ofNat', Nat.shiftLeft_eq, hlogical, Nat.mod_mul_mod]
  · rw [hlogical, Nat.pow_zero, Nat.mul_one]

/-- A physical sector is no smaller than a logical one. -/
theorem statedLogicalSize_le (data : Bytes) : statedLogicalSize data ≤ statedPhysicalSize data :=
  Nat.le_mul_of_pos_right _ (Nat.two_pow_pos _)

/-- **What is decoded of the sizes of sectors**: their low 32 bits, without a halt. So both are as they are stated
exactly if a physical sector has fewer than 2 ^ 32 bytes, and then it is a whole number of logical ones. -/
theorem sector_sizes (h : decode data = .ok id) :
    Stepwise.decode data = .ok id
      ∧ id.logicalSectorSize.toNat = statedLogicalSize data % 2 ^ 32
      ∧ id.physicalSectorSize.toNat = statedPhysicalSize data % 2 ^ 32
      ∧ (id.logicalSectorSize.toNat = statedLogicalSize data ∧ id.physicalSectorSize.toNat = statedPhysicalSize data ↔
        statedPhysicalSize data < 2 ^ 32)
      ∧ (statedPhysicalSize data < 2 ^ 32 →
        id.physicalSectorSize.toNat = id.logicalSectorSize.toNat * 2 ^ statedExponent data
          ∧ id.logicalSectorSize.toNat ∣ id.physicalSectorSize.toNat
          ∧ id.logicalSectorSize ≤ id.physicalSectorSize) := by
  obtain ⟨hlogical, hphysical⟩ := sizes_of_decode h
  have hle := statedLogicalSize_le data
  have hexact (hlt : statedPhysicalSize data < 2 ^ 32) :
      id.logicalSectorSize.toNat = statedLogicalSize data ∧ id.physicalSectorSize.toNat = statedPhysicalSize data := by
    rw [hlogical, hphysical]
    exact ⟨Nat.mod_eq_of_lt (Nat.lt_of_le_of_lt hle hlt), Nat.mod_eq_of_lt hlt⟩
  refine ⟨?_, hlogical, hphysical, ⟨fun hstated => ?_, hexact⟩, fun hlt => ?_⟩
  · rw [Stepwise.decode_eq, h]
    rfl
  · rw [← hstated.2]
    exact id.physicalSectorSize.toNat_lt
  · obtain ⟨hl, hp⟩ := hexact hlt
    rw [UInt32.le_iff_toNat_le, hl, hp]
    exact ⟨rfl, Nat.dvd_mul_right .., hle⟩

/-- A description that says nothing but the sizes of sectors. -/
def describesSizes (word106 words : Bytes) : Bytes := (zeros 512).patch [(212, word106), (234, words)]

/-- Logical sectors of 4096 bytes, four in a physical one. -/
theorem sector_sizes_fourInOne : (let data := describesSizes [0x02, 0x70] [0x00, 0x08, 0x00, 0x00]
    ∃ id, decode data = .ok id ∧ Stepwise.decode data = .ok id ∧ id.logicalSectorSize = 4096
      ∧ id.physicalSectorSize = 16384) := by
  intro data
  obtain ⟨id, h⟩ : ∃ id, decode data = .ok id := exists_decode (by decide +kernel)
  obtain ⟨hrun, hlogical, hphysical, -⟩ := sector_sizes h
  have hstated : statedLogicalSize data = 4096 ∧ statedPhysicalSize data = 16384 := by decide +kernel
  rw [hstated.1] at hlogical
  rw [hstated.2] at hphysical
  exact ⟨id, h, hrun, UInt32.toNat_inj.1 hlogical, UInt32.toNat_inj.1 hphysical⟩

/-- Larger sizes are neither kept nor refused: this description states logical sectors of 6 GiB, two in a physical one.
It is decoded as logical sectors of 2 GiB, in physical ones of no bytes. -/
theorem high_bits_lost :
    ¬∀ (data : Bytes) (id : Identity), decode data = .ok id →
      id.logicalSectorSize.toNat = statedLogicalSize data ∧ id.physicalSectorSize.toNat = statedPhysicalSize data
        ∧ id.logicalSectorSize.toNat ∣ id.physicalSectorSize.toNat ∧ id.logicalSectorSize ≤ id.physicalSectorSize := by
  intro hall
  let data := describesSizes [0x01, 0x70] [0x00, 0x00, 0x00, 0xc0]
  obtain ⟨id, h⟩ : ∃ id, decode data = .ok id := exists_decode (by decide +kernel)
  have hstated : statedLogicalSize data = 6 * 2 ^ 30 ∧ statedPhysicalSize data = 12 * 2 ^ 30 := by decide +kernel
  obtain ⟨hlogical, hphysical⟩ := sizes_of_decode h
  rw [hstated.1] at hlogical
  rw [hstated.2] at hphysical
  obtain ⟨-, -, -, hle⟩ := hall _ id h
  rw [UInt32.le_iff_toNat_le, hlogical, hphysical] at hle
  omega

end Identity

end Ata

end StorageCommands
