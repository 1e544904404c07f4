import StorageCommands.Layout.Table
import StorageCommands.Scsi.Operation

/-!
# ATA commands in SCSI command blocks

A SCSI device can carry an ATA command, the values of the registers of a disk, in a command block of 12 or 16 bytes.
The 16-byte block has room for the 48-bit registers: every 16-bit pair holds the earlier and the later value written
to a register, and a 48-bit block address takes the later values of three pairs and then the earlier ones. The 12-byte
block holds 28-bit addresses, whose highest four bits go into the device register.
-/

namespace StorageCommands.Ata

open Layout

/-! ## Codes -/

/-- How an ATA command moves data. -/
abbrev Protocol := UInt8

namespace Protocol

/-- Through the data register, to the host. -/
def pioDataIn : Protocol := 4

def family : CodeFamily where
  name := "AtaProtocol"
  names :=
    [(0x00, "HARD_RESET"), (0x01, "SOFT_RESET"), (0x03, "NON_DATA"), (0x04, "PIO_DATA_IN"), (0x05, "PIO_DATA_OUT"),
     (0x06, "DMA"), (0x07, "DMA_QUEUED"), (0x08, "DEVICE_DIAGNOSTIC"), (0x09, "DEVICE_RESET"), (0x0a, "UDMA_DATA_IN"),
     (0x0b, "UDMA_DATA_OUT"), (0x0c, "FPDMA"), (0x0f, "RETURN_RESPONSE_INFORMATION")]

end Protocol

/-- The value of the command register. -/
abbrev Command := UInt8

namespace Command

/-- The SMART commands. -/
def smart : Command := 0xb0

def identifyDevice : Command := 0xec

def family : CodeFamily where
  name := "AtaCommand"
  names :=
    [(0x2f, "READ_LOG_EXT"), (0x47, "READ_LOG_DMA_EXT"), (0xb0, "SMART"), (0xe5, "CHECK_POWER_MODE"),
     (0xec, "IDENTIFY_DEVICE")]

end Command

/-- Which SMART command is meant, the value of the features register. -/
abbrev SmartFeature := UInt8

def SmartFeature.family : CodeFamily where
  name := "SmartFeature"
  names := [(0xd0, "READ_DATA"), (0xd1, "READ_THRESHOLDS"), (0xda, "RETURN_STATUS")]

/-- Which register holds the length of the transfer. -/
abbrev TransferLength := UInt8

namespace TransferLength

/-- No data is transferred. -/
def none : TransferLength := 0

/-- The count register. -/
def sectorCount : TransferLength := 2

def family : CodeFamily where
  name := "TransferLength"
  names := [(0x00, "NONE"), (0x01, "FEATURES"), (0x02, "SECTOR_COUNT"), (0x03, "STPSIU")]

end TransferLength

/-- The direction in which a command moves data. -/
inductive Direction
  | toDevice
  | fromDevice
  deriving DecidableEq, Repr

/-! ## Requests -/

/-- The largest block address of 28 bits. -/
def maxLba28 : UInt64 := 0x0fffffff

/-- The block address that every SMART command has to carry. -/
def smartSignature : UInt64 := 0xc24f00

/-- The values written to the registers of a disk. -/
structure Taskfile where
  features : UInt16 := 0
  count : UInt16 := 0
  /-- The block address, of 48 bits. -/
  lba : UInt64 := 0
  device : UInt8 := 0
  command : Command
  deriving DecidableEq, Repr

/-- Whether the values need the 48-bit registers. -/
def Taskfile.isExtended (tf : Taskfile) : Bool := 0xff < tf.features || 0xff < tf.count || maxLba28 < tf.lba

/-- An ATA command and how it is carried. -/
structure PassThrough where
  protocol : Protocol
  direction : Direction
  length : TransferLength := .none
  /-- The length counts blocks, not bytes. -/
  countsBlocks : Bool := false
  /-- Blocks are logical sectors, not units of 512 bytes. -/
  logicalBlocks : Bool := false
  /-- Ask for the registers in the sense data even after success. -/
  checkCondition : Bool := false
  /-- How long the bus may be unusable after the command: two to this power less two, in seconds. -/
  offLine : UInt8 := 0
  multipleCount : UInt8 := 0
  taskfile : Taskfile
  control : UInt8 := 0
  deriving DecidableEq, Repr

namespace PassThrough

/-- A command that reads one block of 512 bytes through the data register. -/
def readBlock (taskfile : Taskfile) : PassThrough :=
  { protocol := .pioDataIn
    direction := .fromDevice
    length := .sectorCount
    countsBlocks := true
    taskfile := { taskfile with count := 1 } }

def identifyDevice : PassThrough := readBlock { command := .identifyDevice }

/-- A SMART command that reads one block. -/
def smartRead (feature : SmartFeature) : PassThrough :=
  readBlock { features := feature.toUInt16, lba := smartSignature, command := .smart }

end PassThrough

/-! ## Command blocks -/

inductive PassThroughField
  | operationCode | multipleCount | protocol
  /-- The earlier register values count. -/
  | extend
  | offLine
  /-- Ask for the registers in the sense data. -/
  | ckCond
  /-- Blocks are logical sectors. -/
  | tType
  /-- The direction; set for data to the host. -/
  | tDir
  /-- The length counts blocks. -/
  | bytBlok
  /-- Which register holds the length. -/
  | tLength
  | features | count
  /-- Bits 7:0 of the block address, below bits 31:24. -/
  | lbaLow
  /-- Bits 15:8 of the block address, below bits 39:32. -/
  | lbaMid
  /-- Bits 23:16 of the block address, below bits 47:40. -/
  | lbaHigh
  | device | command | control
  deriving DecidableEq, Repr

instance : Named PassThroughField where
  name
    | .operationCode => "OperationCode"
    | .multipleCount => "MultipleCount"
    | .protocol => "Protocol"
    | .extend => "Extend"
    | .offLine => "OffLine"
    | .ckCond => "CkCond"
    | .tType => "TType"
    | .tDir => "TDir"
    | .bytBlok => "BytBlok"
    | .tLength => "TLength"
    | .features => "Features"
    | .count => "Count"
    | .lbaLow => "LbaLow"
    | .lbaMid => "LbaMid"
    | .lbaHigh => "LbaHigh"
    | .device => "Device"
    | .command => "Command"
    | .control => "Control"

/-- The 16-byte block. -/
def passThrough16 : Table PassThroughField :=
  ⟨[(.operationCode, .bytes 0 1 .littleEndian),
    (.multipleCount, .mask 1 0xe0 .big),
    (.protocol, .mask 1 0x1e .big),
    (.extend, .mask 1 0x01 .big),
    (.offLine, .mask 2 0xc0 .big),
    (.ckCond, .mask 2 0x20 .big),
    (.tType, .mask 2 0x10 .big),
    (.tDir, .mask 2 0x08 .big),
    (.bytBlok, .mask 2 0x04 .big),
    (.tLength, .mask 2 0x03 .big),
    (.features, .mask 3 0xffff .big),
    (.count, .mask 5 0xffff .big),
    (.lbaLow, .mask 7 0xffff .big),
    (.lbaMid, .mask 9 0xffff .big),
    (.lbaHigh, .mask 11 0xffff .big),
    (.device, .bytes 13 1 .littleEndian),
    (.command, .bytes 14 1 .littleEndian),
    (.control, .bytes 15 1 .littleEndian)]⟩

/-- The 12-byte block. -/
def passThrough12 : Table PassThroughField :=
  ⟨[(.operationCode, .bytes 0 1 .littleEndian),
    (.multipleCount, .mask 1 0xe0 .big),
    (.protocol, .mask 1 0x1e .big),
    (.offLine, .mask 2 0xc0 .big),
    (.ckCond, .mask 2 0x20 .big),
    (.tType, .mask 2 0x10 .big),
    (.tDir, .mask 2 0x08 .big),
    (.bytBlok, .mask 2 0x04 .big),
    (.tLength, .mask 2 0x03 .big),
    (.features, .bytes 3 1 .littleEndian),
    (.count, .bytes 4 1 .littleEndian),
    (.lbaLow, .bytes 5 1 .littleEndian),
    (.lbaMid, .bytes 6 1 .littleEndian),
    (.lbaHigh, .bytes 7 1 .littleEndian),
    (.device, .bytes 8 1 .littleEndian),
    (.command, .bytes 9 1 .littleEndian),
    (.control, .bytes 11 1 .littleEndian)]⟩

namespace PassThrough

/-- The values that both blocks carry in the same way. -/
def flags (r : PassThrough) : List (PassThroughField × Value) :=
  [(.multipleCount, .uint r.multipleCount.toNat),
   (.protocol, .uint r.protocol.toNat),
   (.offLine, .uint r.offLine.toNat),
   (.ckCond, .ofBool r.checkCondition),
   (.tType, .ofBool r.logicalBlocks),
   (.tDir, .ofBool (r.direction = .fromDevice)),
   (.bytBlok, .ofBool r.countsBlocks),
   (.tLength, .uint r.length.toNat),
   (.command, .uint r.taskfile.command.toNat),
   (.control, .uint r.control.toNat)]

/-- The value of a register pair: the byte of a block address at a shift, below the byte 24 bits above it. -/
def lbaPair (lba : UInt64) (shift : Nat) : Nat :=
  256 * ((lba.toNat >>> (shift + 24)) % 256) + (lba.toNat >>> shift) % 256

def values16 (r : PassThrough) : List (PassThroughField × Value) :=
  let tf := r.taskfile
  r.flags ++
    [(.operationCode, .uint Scsi.Operation.ataPassThrough16.toNat),
     (.extend, .ofBool tf.isExtended),
     (.features, .uint tf.features.toNat),
     (.count, .uint tf.count.toNat),
     (.lbaLow, .uint (lbaPair tf.lba 0)),
     (.lbaMid, .uint (lbaPair tf.lba 8)),
     (.lbaHigh, .uint (lbaPair tf.lba 16)),
     (.device, .uint tf.device.toNat)]

def values12 (r : PassThrough) : List (PassThroughField × Value) :=
  let tf := r.taskfile
  r.flags ++
    [(.operationCode, .uint Scsi.Operation.ataPassThrough12.toNat),
     (.features, .uint tf.features.toNat),
     (.count, .uint tf.count.toNat),
     (.lbaLow, .uint (tf.lba.toNat % 256)),
     (.lbaMid, .uint (tf.lba.toNat / 0x100 % 256)),
     (.lbaHigh, .uint (tf.lba.toNat / 0x10000 % 256)),
     (.device, .uint (tf.device.toNat ||| tf.lba.toNat / 0x1000000))]

/-- The 16-byte block that carries a request. -/
def block16 (r : PassThrough) : Except Layout.Error Bytes := passThrough16.encode ⟨r.values16⟩ (Bytes.zeros 16)

/-- The 12-byte block that carries a request; the block address must have 28 bits. -/
def block12 (r : PassThrough) : Except Layout.Error Bytes :=
  if maxLba28 < r.taskfile.lba then
    .error (.valueTooLarge (Named.name PassThroughField.lbaHigh) r.taskfile.lba.toNat maxLba28.toNat)
  else passThrough12.encode ⟨r.values12⟩ (Bytes.zeros 12)

end PassThrough

end StorageCommands.Ata
