import StorageCommands.Code
import StorageCommands.Layout.Table
import StorageCommands.Register

/-!
# Identify data

The Identify command returns a structure of 4096 bytes that describes the controller or one of its namespaces. Here
are the layouts of both, and `ControllerIdentity.decode` and `NamespaceIdentity.decode`, which read the parts that the
library uses.
-/

namespace StorageCommands.Nvme

open Layout

def identifyLength : Nat := 4096

/-! ## The command -/

/-- Which structure an Identify command asks for. -/
abbrev IdentifyTarget := UInt8

namespace IdentifyTarget

/-- The structure of a namespace. -/
def forNamespace : IdentifyTarget := 0

/-- The structure of the controller. -/
def forController : IdentifyTarget := 1

def family : CodeFamily where
  name := "Cns"
  names :=
    [(0x00, "NAMESPACE"), (0x01, "CONTROLLER"), (0x02, "ACTIVE_NAMESPACES"), (0x03, "DESCRIPTOR_NAMESPACE")]

end IdentifyTarget

/-- The fields of dword 10 of an Identify command. -/
inductive IdentifyField
  | cns
  | cntid
  deriving DecidableEq, Repr

instance : Named IdentifyField where
  name
    | .cns => "Cns"
    | .cntid => "Cntid"

/-- Dword 10 of an Identify command. -/
def identifyDword10 : Table IdentifyField := ⟨[(.cns, .bits 0 8), (.cntid, .bits 16 16)]⟩

/-! ## Controllers -/

inductive ControllerField
  | vid | ssvid | sn | mn | fr | mdts | cntlid | ver | oacs | lpa | elpe | wctemp | cctemp | pels | nn | subnqn
  deriving DecidableEq, Repr

instance : Named ControllerField where
  name
    | .vid => "Vid"
    | .ssvid => "Ssvid"
    | .sn => "Sn"
    | .mn => "Mn"
    | .fr => "Fr"
    | .mdts => "Mdts"
    | .cntlid => "Cntlid"
    | .ver => "Ver"
    | .oacs => "Oacs"
    | .lpa => "Lpa"
    | .elpe => "Elpe"
    | .wctemp => "Wctemp"
    | .cctemp => "Cctemp"
    | .pels => "Pels"
    | .nn => "Nn"
    | .subnqn => "Subnqn"

/-- The structure of a controller. -/
def controllerTable : Table ControllerField :=
  ⟨[(.vid, .bytes 0 2 .littleEndian),
    (.ssvid, .bytes 2 2 .littleEndian),
    (.sn, .bytes 4 20 .text),
    (.mn, .bytes 24 40 .text),
    (.fr, .bytes 64 8 .text),
    (.mdts, .bytes 77 1 .littleEndian),
    (.cntlid, .bytes 78 2 .littleEndian),
    (.ver, .bytes 80 4 .littleEndian),
    (.oacs, .bytes 256 2 .littleEndian),
    (.lpa, .bytes 261 1 .littleEndian),
    (.elpe, .bytes 262 1 .littleEndian),
    (.wctemp, .bytes 266 2 .littleEndian),
    (.cctemp, .bytes 268 2 .littleEndian),
    (.pels, .bytes 352 4 .littleEndian),
    (.nn, .bytes 516 4 .littleEndian),
    (.subnqn, .bytes 768 256 .text)]⟩

namespace LogPageAttributes

/-- Get Log Page takes long transfers and offsets. -/
def extendedData : RegisterField := .bit "extended_data" 2

/-- The controller has a persistent event log. -/
def persistentEvent : RegisterField := .bit "persistent_event" 4

/-- What the controller's log pages can do. -/
def layout : RegisterLayout :=
  ⟨"LogPageAttributes", 1,
    [.bit "smart_per_namespace" 0, .bit "commands_supported_and_effects" 1, extendedData, .bit "telemetry" 3,
     persistentEvent]⟩

end LogPageAttributes

namespace OptionalAdminCommands

/-- The controller can format namespaces. -/
def formatNvm : RegisterField := .bit "format_nvm" 1

/-- Which optional admin commands the controller has. -/
def layout : RegisterLayout :=
  ⟨"OptionalAdminCommandSupport", 2,
    [.bit "security_send_security_receive" 0, formatNvm, .bit "firmware_activate_firmware_download" 2,
     .bit "ns_management" 3, .bit "self_test" 4, .bit "directives" 5, .bit "nvme_mi_send_nvme_mi_receive" 6,
     .bit "virtualization_management" 7, .bit "doorbell_buffer_config" 8, .bit "get_lba_status" 9,
     .bit "command_feature_lockdown" 10]⟩

end OptionalAdminCommands

/-- What the library reads of the structure of a controller. -/
structure ControllerIdentity where
  vendorId : UInt16
  subsystemVendorId : UInt16
  serialNumber : String
  modelNumber : String
  firmwareRevision : String
  /-- The largest transfer, as a power of two of the smallest page size; zero for no limit. -/
  maxTransferShift : UInt8
  controllerId : UInt16
  version : UInt32
  optionalAdminCommands : UInt16
  logPageAttributes : UInt8
  /-- The size of the persistent event log in units of 64 KiB. -/
  eventLogUnits : UInt32
  namespaceCount : UInt32
  subsystemName : String
  deriving DecidableEq, Repr

namespace ControllerIdentity

/-- Reads the structure of a controller. -/
def decode (data : Bytes) : Except Layout.Error ControllerIdentity := do
  let v ← controllerTable.decode data
  return {
    vendorId := UInt16.ofNat (v.uint .vid)
    subsystemVendorId := UInt16.ofNat (v.uint .ssvid)
    serialNumber := v.text .sn
    modelNumber := v.text .mn
    firmwareRevision := v.text .fr
    maxTransferShift := UInt8.ofNat (v.uint .mdts)
    controllerId := UInt16.ofNat (v.uint .cntlid)
    version := UInt32.ofNat (v.uint .ver)
    optionalAdminCommands := UInt16.ofNat (v.uint .oacs)
    logPageAttributes := UInt8.ofNat (v.uint .lpa)
    eventLogUnits := UInt32.ofNat (v.uint .pels)
    namespaceCount := UInt32.ofNat (v.uint .nn)
    subsystemName := v.text .subnqn }

/-- Whether the controller can format namespaces. -/
def canFormat (c : ControllerIdentity) : Bool := OptionalAdminCommands.formatNvm.test c.optionalAdminCommands.toNat

/-- Whether Get Log Page takes long transfers and offsets. -/
def hasExtendedData (c : ControllerIdentity) : Bool := LogPageAttributes.extendedData.test c.logPageAttributes.toNat

/-- Whether the controller has a persistent event log. -/
def hasEventLog (c : ControllerIdentity) : Bool := LogPageAttributes.persistentEvent.test c.logPageAttributes.toNat

/-- The identity of a controller as one line. -/
def display (c : ControllerIdentity) : String :=
  Display.record "ControllerIdentity"
    [("vid", toString c.vendorId), ("ssvid", toString c.subsystemVendorId),
     ("serial_number", Display.quoted c.serialNumber), ("model_number", Display.quoted c.modelNumber),
     ("firmware_revision", Display.quoted c.firmwareRevision), ("mdts", toString c.maxTransferShift),
     ("controller_id", toString c.controllerId), ("version", toString c.version),
     ("oacs", OptionalAdminCommands.layout.display c.optionalAdminCommands.toNat),
     ("lpa", LogPageAttributes.layout.display c.logPageAttributes.toNat), ("pels", toString c.eventLogUnits),
     ("namespace_count", toString c.namespaceCount), ("subnqn", Display.quoted c.subsystemName)]

end ControllerIdentity

/-! ## Namespaces -/

inductive NamespaceField
  | nsze | ncap | nuse | nlbaf | flbasIndex | lbaf0Lbads
  deriving DecidableEq, Repr

instance : Named NamespaceField where
  name
    | .nsze => "Nsze"
    | .ncap => "Ncap"
    | .nuse => "Nuse"
    | .nlbaf => "Nlbaf"
    | .flbasIndex => "FlbasIndex"
    | .lbaf0Lbads => "Lbaf0Lbads"

/-- The structure of a namespace. -/
def namespaceTable : Table NamespaceField :=
  ⟨[(.nsze, .bytes 0 8 .littleEndian),
    (.ncap, .bytes 8 8 .littleEndian),
    (.nuse, .bytes 16 8 .littleEndian),
    (.nlbaf, .bytes 25 1 .littleEndian),
    (.flbasIndex, .mask 26 0x0f .big),
    (.lbaf0Lbads, .bytes 130 1 .littleEndian)]⟩

/-- What the library reads of the structure of a namespace. Sizes are in logical blocks. -/
structure NamespaceIdentity where
  size : UInt64
  capacity : UInt64
  utilization : UInt64
  /-- The number of block formats; the structure holds one less. -/
  formatCount : UInt8
  /-- The block format in use. -/
  formatIndex : UInt8
  /-- The data size of block format 0, as a power of two. -/
  format0DataShift : UInt8
  deriving DecidableEq, Repr

namespace NamespaceIdentity

/-- Reads the structure of a namespace. -/
def decode (data : Bytes) : Except Layout.Error NamespaceIdentity := do
  let v ← namespaceTable.decode data
  return {
    size := UInt64.ofNat (v.uint .nsze)
    capacity := UInt64.ofNat (v.uint .ncap)
    utilization := UInt64.ofNat (v.uint .nuse)
    formatCount := UInt8.ofNat (v.uint .nlbaf) + 1
    formatIndex := UInt8.ofNat (v.uint .flbasIndex)
    format0DataShift := UInt8.ofNat (v.uint .lbaf0Lbads) }

/-- The identity of a namespace as one line. -/
def display (n : NamespaceIdentity) : String :=
  Display.record "NamespaceIdentity"
    [("size", toString n.size), ("capacity", toString n.capacity), ("utilization", toString n.utilization),
     ("lba_format_count", toString n.formatCount), ("formatted_lba_format", toString n.formatIndex),
     ("lba_format0_data_shift", toString n.format0DataShift)]

end NamespaceIdentity

end StorageCommands.Nvme
