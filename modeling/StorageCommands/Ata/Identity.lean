import StorageCommands.Layout.Table

/-!
# ATA Identify Device

A disk describes itself in 512 bytes. `Identity.decode` reads the parts that the library uses. Strings have the two
characters of every 16-bit word swapped.
-/

namespace StorageCommands.Ata

open Layout

/-- The fields of the description of a disk. Offsets are in bytes. -/
inductive IdentityField
  | serialNumber | firmwareRevision | modelNumber | lbaSupported | lba28Sectors | smartSupported | lba48Supported
  | smartEnabled | lba48Sectors
  /-- One if the word on sector sizes is valid. -/
  | sectorSizeValid
  | multipleLogicalPerPhysical | logicalLongerThan256Words | logicalPerPhysicalLog2 | logicalSectorWords
  | rotationRate
  deriving DecidableEq, Repr

instance : Named IdentityField where
  name
    | .serialNumber => "SerialNumber"
    | .firmwareRevision => "FirmwareRevision"
    | .modelNumber => "ModelNumber"
    | .lbaSupported => "LbaSupported"
    | .lba28Sectors => "Lba28Sectors"
    | .smartSupported => "SmartSupported"
    | .lba48Supported => "Lba48Supported"
    | .smartEnabled => "SmartEnabled"
    | .lba48Sectors => "Lba48Sectors"
    | .sectorSizeValid => "SectorSizeValid"
    | .multipleLogicalPerPhysical => "MultipleLogicalPerPhysical"
    | .logicalLongerThan256Words => "LogicalLongerThan256Words"
    | .logicalPerPhysicalLog2 => "LogicalPerPhysicalLog2"
    | .logicalSectorWords => "LogicalSectorWords"
    | .rotationRate => "RotationRate"

/-- The description of a disk. -/
def identityTable : Table IdentityField :=
  ⟨[(.serialNumber, .bytes 20 20 .raw),
    (.firmwareRevision, .bytes 46 8 .raw),
    (.modelNumber, .bytes 54 40 .raw),
    (.lbaSupported, .mask 98 0x0200 .little),
    (.lba28Sectors, .bytes 120 4 .littleEndian),
    (.smartSupported, .mask 164 0x0001 .little),
    (.lba48Supported, .mask 166 0x0400 .little),
    (.smartEnabled, .mask 170 0x0001 .little),
    (.lba48Sectors, .bytes 200 8 .littleEndian),
    (.sectorSizeValid, .mask 212 0xc000 .little),
    (.multipleLogicalPerPhysical, .mask 212 0x2000 .little),
    (.logicalLongerThan256Words, .mask 212 0x1000 .little),
    (.logicalPerPhysicalLog2, .mask 212 0x000f .little),
    (.logicalSectorWords, .bytes 234 4 .littleEndian),
    (.rotationRate, .bytes 434 2 .littleEndian)]⟩

/-- How fast a disk turns. -/
inductive RotationRate
  | nonRotating
  | rpm (n : UInt16)
  deriving DecidableEq, Repr

/-- The rotation rate that a disk reports, if it reports one. -/
def RotationRate.ofReported (n : Nat) : Option RotationRate :=
  if n = 1 then some .nonRotating
  else if 0x0401 ≤ n ∧ n ≤ 0xfffe then some (.rpm (UInt16.ofNat n))
  else none

/-- The bytes with each pair swapped; an odd byte at the end is dropped. -/
def swapPairs : Bytes → Bytes
  | a :: b :: rest => b :: a :: swapPairs rest
  | _ => []

/-- The text of a string of a disk, its padding taken off at both ends. -/
def stringText (b : Bytes) : String := String.ofList (Padded.trim (Utf8.decode (swapPairs b)))

/-- What the library reads of the description of a disk. -/
structure Identity where
  serialNumber : String
  firmwareRevision : String
  modelNumber : String
  lbaSupported : Bool
  lba48Supported : Bool
  smartSupported : Bool
  smartEnabled : Bool
  /-- The number of sectors, from the 48-bit count if the disk has one. -/
  sectors : UInt64
  /-- In bytes. -/
  logicalSectorSize : UInt32
  physicalSectorSize : UInt32
  rotationRate : Option RotationRate
  deriving DecidableEq, Repr

namespace Identity

/-- The text of a string field, empty if there is none. -/
def string (v : Values IdentityField) (id : IdentityField) : String := ((v.bytes? id).map stringText).getD ""

/-- Reads the description of a disk. Sector sizes keep their low 32 bits. -/
def decode (data : Bytes) : Except Layout.Error Identity := do
  let v ← identityTable.decode data
  let sizesValid := v.uint .sectorSizeValid = 1
  let logical : UInt32 :=
    if sizesValid ∧ v.flag .logicalLongerThan256Words then UInt32.ofNat (v.uint .logicalSectorWords * 2) else 512
  let physical : UInt32 :=
    if sizesValid ∧ v.flag .multipleLogicalPerPhysical then
      UInt32.ofNat (logical.toNat <<< v.uint .logicalPerPhysicalLog2)
    else logical
  return {
    serialNumber := string v .serialNumber
    firmwareRevision := string v .firmwareRevision
    modelNumber := string v .modelNumber
    lbaSupported := v.flag .lbaSupported
    lba48Supported := v.flag .lba48Supported
    smartSupported := v.flag .smartSupported
    smartEnabled := v.flag .smartEnabled
    sectors := UInt64.ofNat
      (if v.flag .lba48Supported then v.uint .lba48Sectors % 0x1000000000000 else v.uint .lba28Sectors)
    logicalSectorSize := logical
    physicalSectorSize := physical
    rotationRate := RotationRate.ofReported (v.uint .rotationRate) }

end Identity

end StorageCommands.Ata
