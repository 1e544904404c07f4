import StorageCommands.EventLog.Event
import StorageCommands.Nvme.Status

/-!
# Event data

The layouts of the data of six types of event, and `Event.details`, which reads them. A power-on event carries a
firmware revision of 8 bytes and then a descriptor of 36 bytes for each controller; bytes that fill no descriptor are
ignored.
-/

namespace StorageCommands.EventLog

open Layout Nvme

/-! ## Layouts -/

inductive FirmwareCommitField
  | oldFirmwareRevision | newFirmwareRevision | commitAction | firmwareSlot | statusCodeType | statusReturned
  | vendorStatus
  deriving DecidableEq, Repr

instance : Named FirmwareCommitField where
  name
    | .oldFirmwareRevision => "OldFirmwareRevision"
    | .newFirmwareRevision => "NewFirmwareRevision"
    | .commitAction => "CommitAction"
    | .firmwareSlot => "FirmwareSlot"
    | .statusCodeType => "StatusCodeType"
    | .statusReturned => "StatusReturned"
    | .vendorStatus => "VendorStatus"

/-- The data of a firmware commit. -/
def firmwareCommitTable : Table FirmwareCommitField :=
  ⟨[(.oldFirmwareRevision, .bytes 0 8 .text),
    (.newFirmwareRevision, .bytes 8 8 .text),
    (.commitAction, .bytes 16 1 .littleEndian),
    (.firmwareSlot, .bytes 17 1 .littleEndian),
    (.statusCodeType, .bytes 18 1 .littleEndian),
    (.statusReturned, .bytes 19 1 .littleEndian),
    (.vendorStatus, .bytes 20 2 .littleEndian)]⟩

inductive TimestampChangeField
  | previousTimestamp | millisecondsSinceReset
  deriving DecidableEq, Repr

instance : Named TimestampChangeField where
  name
    | .previousTimestamp => "PreviousTimestamp"
    | .millisecondsSinceReset => "MillisecondsSinceReset"

/-- The data of a change of the clock. -/
def timestampChangeTable : Table TimestampChangeField :=
  ⟨[(.previousTimestamp, .bytes 0 8 .littleEndian), (.millisecondsSinceReset, .bytes 8 8 .littleEndian)]⟩

/-- The field in front of the descriptors of a power-on event. -/
inductive PowerOnField
  | firmwareRevision
  deriving DecidableEq, Repr

instance : Named PowerOnField where
  name
    | .firmwareRevision => "FirmwareRevision"

/-- The data of a power-on event in front of the descriptors. -/
def powerOnTable : Table PowerOnField := ⟨[(.firmwareRevision, .bytes 0 8 .text)]⟩

/-- The size of a descriptor of a power-on event. -/
def powerOnDescriptorLength : Nat := 36

/-- The fields of a descriptor of a power-on event. -/
inductive PowerOnDescriptorField
  | controllerIdentifier | firmwareActivation | operationInProgress | controllerPowerCycle | powerOnMilliseconds
  | controllerTimestamp
  deriving DecidableEq, Repr

instance : Named PowerOnDescriptorField where
  name
    | .controllerIdentifier => "ControllerIdentifier"
    | .firmwareActivation => "FirmwareActivation"
    | .operationInProgress => "OperationInProgress"
    | .controllerPowerCycle => "ControllerPowerCycle"
    | .powerOnMilliseconds => "PowerOnMilliseconds"
    | .controllerTimestamp => "ControllerTimestamp"

/-- A descriptor of a power-on event. -/
def powerOnDescriptorTable : Table PowerOnDescriptorField :=
  ⟨[(.controllerIdentifier, .bytes 0 2 .littleEndian),
    (.firmwareActivation, .bytes 2 1 .littleEndian),
    (.operationInProgress, .bytes 3 1 .littleEndian),
    (.controllerPowerCycle, .bytes 16 4 .littleEndian),
    (.powerOnMilliseconds, .bytes 20 8 .littleEndian),
    (.controllerTimestamp, .bytes 28 8 .littleEndian)]⟩

inductive ChangeNamespaceField
  | namespaceManagementCdw10 | nsze | ncap | flbas | dps | nmic | anaGroupId | nvmSetId | nsid
  deriving DecidableEq, Repr

instance : Named ChangeNamespaceField where
  name
    | .namespaceManagementCdw10 => "NamespaceManagementCdw10"
    | .nsze => "Nsze"
    | .ncap => "Ncap"
    | .flbas => "Flbas"
    | .dps => "Dps"
    | .nmic => "Nmic"
    | .anaGroupId => "AnaGroupId"
    | .nvmSetId => "NvmSetId"
    | .nsid => "Nsid"

/-- The data of a change of a namespace. -/
def changeNamespaceTable : Table ChangeNamespaceField :=
  ⟨[(.namespaceManagementCdw10, .bytes 0 4 .littleEndian),
    (.nsze, .bytes 8 8 .littleEndian),
    (.ncap, .bytes 24 8 .littleEndian),
    (.flbas, .bytes 32 1 .littleEndian),
    (.dps, .bytes 33 1 .littleEndian),
    (.nmic, .bytes 34 1 .littleEndian),
    (.anaGroupId, .bytes 36 4 .littleEndian),
    (.nvmSetId, .bytes 40 2 .littleEndian),
    (.nsid, .bytes 44 4 .littleEndian)]⟩

inductive SanitizeStartField
  | sanicap | sanitizeCdw10 | sanitizeCdw11
  deriving DecidableEq, Repr

instance : Named SanitizeStartField where
  name
    | .sanicap => "Sanicap"
    | .sanitizeCdw10 => "SanitizeCdw10"
    | .sanitizeCdw11 => "SanitizeCdw11"

/-- The data of the start of a sanitize operation. -/
def sanitizeStartTable : Table SanitizeStartField :=
  ⟨[(.sanicap, .bytes 0 4 .littleEndian),
    (.sanitizeCdw10, .bytes 4 4 .littleEndian),
    (.sanitizeCdw11, .bytes 8 4 .littleEndian)]⟩

inductive ThermalExcursionField
  | overTemperature | threshold
  deriving DecidableEq, Repr

instance : Named ThermalExcursionField where
  name
    | .overTemperature => "OverTemperature"
    | .threshold => "Threshold"

/-- The data of a thermal excursion. -/
def thermalExcursionTable : Table ThermalExcursionField :=
  ⟨[(.overTemperature, .bytes 0 1 .littleEndian), (.threshold, .bytes 1 1 .littleEndian)]⟩

/-! ## Details -/

/-- What a power-on event says of one controller. -/
structure PowerOnDescriptor where
  controllerId : UInt16
  firmwareActivation : UInt8
  operationInProgress : UInt8
  powerCycle : UInt32
  powerOnMilliseconds : UInt64
  timestamp : UInt64
  deriving DecidableEq, Repr

/-- Reads a descriptor of a power-on event. -/
def PowerOnDescriptor.decode (data : Bytes) : Except Layout.Error PowerOnDescriptor := do
  let v ← powerOnDescriptorTable.decode data
  return {
    controllerId := UInt16.ofNat (v.uint .controllerIdentifier)
    firmwareActivation := UInt8.ofNat (v.uint .firmwareActivation)
    operationInProgress := UInt8.ofNat (v.uint .operationInProgress)
    powerCycle := UInt32.ofNat (v.uint .controllerPowerCycle)
    powerOnMilliseconds := UInt64.ofNat (v.uint .powerOnMilliseconds)
    timestamp := UInt64.ofNat (v.uint .controllerTimestamp) }

/-- What the data of an event says. -/
inductive Details
  | firmwareCommit (oldRevision newRevision : String) (action slot : UInt8) (status : StatusCode)
      (vendorStatus : UInt16)
  | timestampChange (previous sinceReset : UInt64)
  | powerOnOrReset (firmwareRevision : String) (controllers : List PowerOnDescriptor)
  | changeNamespace (nsid : UInt32) (size capacity : UInt64) (flbas dps nmic : UInt8) (anaGroupId : UInt32)
      (nvmSetId : UInt16) (managementDword10 : UInt32)
  | sanitizeStart (capabilities dword10 dword11 : UInt32)
  /-- The temperature over the threshold in Kelvin, and which threshold it is. -/
  | thermalExcursion (overTemperature threshold : UInt8)
  /-- An event of another type. -/
  | other
  deriving DecidableEq, Repr

/-- The whole windows of `size` bytes that a byte string is made of, in order; bytes that fill no window are dropped. -/
def wholeWindows (size : Nat) (b : Bytes) : List Bytes :=
  (List.range (b.length / size)).map fun i => b.slice (size * i) size

/-- Reads the data of an event. -/
def Event.details (e : Event) : Except Layout.Error Details :=
  if e.type = .firmwareCommit then do
    let v ← firmwareCommitTable.decode e.data
    return .firmwareCommit (v.text .oldFirmwareRevision) (v.text .newFirmwareRevision)
      (UInt8.ofNat (v.uint .commitAction)) (UInt8.ofNat (v.uint .firmwareSlot))
      ⟨UInt16.ofNat (256 * v.uint .statusCodeType + v.uint .statusReturned)⟩
      (UInt16.ofNat (v.uint .vendorStatus))
  else if e.type = .timestampChange then do
    let v ← timestampChangeTable.decode e.data
    return .timestampChange (UInt64.ofNat (v.uint .previousTimestamp)) (UInt64.ofNat (v.uint .millisecondsSinceReset))
  else if e.type = .powerOnOrReset then do
    let v ← powerOnTable.decode e.data
    let windows := wholeWindows powerOnDescriptorLength (e.data.drop powerOnTable.minLength)
    return .powerOnOrReset (v.text .firmwareRevision) (← windows.mapM PowerOnDescriptor.decode)
  else if e.type = .changeNamespace then do
    let v ← changeNamespaceTable.decode e.data
    return .changeNamespace (UInt32.ofNat (v.uint .nsid)) (UInt64.ofNat (v.uint .nsze)) (UInt64.ofNat (v.uint .ncap))
      (UInt8.ofNat (v.uint .flbas)) (UInt8.ofNat (v.uint .dps)) (UInt8.ofNat (v.uint .nmic))
      (UInt32.ofNat (v.uint .anaGroupId)) (UInt16.ofNat (v.uint .nvmSetId))
      (UInt32.ofNat (v.uint .namespaceManagementCdw10))
  else if e.type = .sanitizeStart then do
    let v ← sanitizeStartTable.decode e.data
    return .sanitizeStart (UInt32.ofNat (v.uint .sanicap)) (UInt32.ofNat (v.uint .sanitizeCdw10))
      (UInt32.ofNat (v.uint .sanitizeCdw11))
  else if e.type = .thermalExcursion then do
    let v ← thermalExcursionTable.decode e.data
    return .thermalExcursion (UInt8.ofNat (v.uint .overTemperature)) (UInt8.ofNat (v.uint .threshold))
  else
    return .other

end StorageCommands.EventLog
