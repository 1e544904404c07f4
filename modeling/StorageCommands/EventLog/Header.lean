import StorageCommands.Layout.Table

/-!
# The header of the persistent event log

The log begins with a header of 512 bytes. `Header.decode` reads it, and `Header.alignedLength` rounds the length that
it reports up to whole units of 512 bytes.
-/

namespace StorageCommands.EventLog

open Layout

/-- The size of the header, and of every transfer that acts on the reporting context. -/
def headerLength : Nat := 512

/-- Logs are read in whole units of this many bytes. -/
def lengthUnit : Nat := 512

/-- The unit in which a controller reports the size of its log. -/
def sizeUnit : Nat := 64 * 1024

inductive HeaderField
  | logIdentifier
  /-- The number of events. -/
  | tnev
  /-- The length of the log. -/
  | tll
  | logRevision | logHeaderLength | timestamp
  /-- Power on hours, low 64 bits. -/
  | poh
  | powerCycleCount | vid | ssvid | sn | mn | subnqn | generationNumber | reportingContext
  /-- One bit per event type. -/
  | supportedEventsBitmap
  deriving DecidableEq, Repr

instance : Named HeaderField where
  name
    | .logIdentifier => "LogIdentifier"
    | .tnev => "Tnev"
    | .tll => "Tll"
    | .logRevision => "LogRevision"
    | .logHeaderLength => "LogHeaderLength"
    | .timestamp => "Timestamp"
    | .poh => "Poh"
    | .powerCycleCount => "PowerCycleCount"
    | .vid => "Vid"
    | .ssvid => "Ssvid"
    | .sn => "Sn"
    | .mn => "Mn"
    | .subnqn => "Subnqn"
    | .generationNumber => "GenerationNumber"
    | .reportingContext => "ReportingContext"
    | .supportedEventsBitmap => "SupportedEventsBitmap"

def headerTable : Table HeaderField :=
  ⟨[(.logIdentifier, .bytes 0 1 .littleEndian),
    (.tnev, .bytes 4 4 .littleEndian),
    (.tll, .bytes 8 8 .littleEndian),
    (.logRevision, .bytes 16 1 .littleEndian),
    (.logHeaderLength, .bytes 18 2 .littleEndian),
    (.timestamp, .bytes 20 8 .littleEndian),
    (.poh, .bytes 28 8 .littleEndian),
    (.powerCycleCount, .bytes 44 8 .littleEndian),
    (.vid, .bytes 52 2 .littleEndian),
    (.ssvid, .bytes 54 2 .littleEndian),
    (.sn, .bytes 56 20 .text),
    (.mn, .bytes 76 40 .text),
    (.subnqn, .bytes 116 256 .text),
    (.generationNumber, .bytes 372 2 .littleEndian),
    (.reportingContext, .bytes 374 4 .littleEndian),
    (.supportedEventsBitmap, .bytes 480 32 .raw)]⟩

/-- The header of a log. -/
structure Header where
  logIdentifier : UInt8
  totalEvents : UInt32
  /-- The length of the log in bytes, as reported. -/
  totalLogLength : UInt64
  logRevision : UInt8
  headerLength : UInt16
  /-- The controller's clock when the reporting context was made. -/
  timestamp : UInt64
  powerOnHours : UInt64
  powerCycleCount : UInt64
  vendorId : UInt16
  subsystemVendorId : UInt16
  serialNumber : String
  modelNumber : String
  subsystemName : String
  generationNumber : UInt16
  reportingContext : UInt32
  /-- One bit per event type, 32 bytes. -/
  supportedEvents : Bytes
  deriving DecidableEq, Repr

namespace Header

/-- Reads a header from the first 512 bytes. -/
def decode (data : Bytes) : Except Layout.Error Header := do
  let v ← headerTable.decode data
  return {
    logIdentifier := UInt8.ofNat (v.uint .logIdentifier)
    totalEvents := UInt32.ofNat (v.uint .tnev)
    totalLogLength := UInt64.ofNat (v.uint .tll)
    logRevision := UInt8.ofNat (v.uint .logRevision)
    headerLength := UInt16.ofNat (v.uint .logHeaderLength)
    timestamp := UInt64.ofNat (v.uint .timestamp)
    powerOnHours := UInt64.ofNat (v.uint .poh)
    powerCycleCount := UInt64.ofNat (v.uint .powerCycleCount)
    vendorId := UInt16.ofNat (v.uint .vid)
    subsystemVendorId := UInt16.ofNat (v.uint .ssvid)
    serialNumber := v.text .sn
    modelNumber := v.text .mn
    subsystemName := v.text .subnqn
    generationNumber := UInt16.ofNat (v.uint .generationNumber)
    reportingContext := UInt32.ofNat (v.uint .reportingContext)
    supportedEvents := (v.bytes? .supportedEventsBitmap).getD (Bytes.zeros 32) }

/-- The length of the log rounded up to whole units, at least one of them; none if that exceeds 64 bits. -/
def alignedLength (h : Header) : Option Nat :=
  let len := max 1 ((h.totalLogLength.toNat + (lengthUnit - 1)) / lengthUnit) * lengthUnit
  if len < 0x10000000000000000 then some len else none

/-- Whether the controller reports events of a type. -/
def supportsEvent (h : Header) (type : UInt8) : Bool := h.supportedEvents.bitAt type.toNat

end Header

end StorageCommands.EventLog
