import StorageCommands.Ata.Identity
import StorageCommands.Ata.PassThrough
import StorageCommands.EventLog.Details
import StorageCommands.EventLog.Session
import StorageCommands.Scsi.Operation
import StorageCommands.Scsi.Sense

/-!
# The catalogue

All field tables, register layouts and code families of the library, to be found by name. A table from the catalogue
has the names of its fields as field identifiers.
-/

namespace StorageCommands.Catalogue

open Layout (Named Table)

/-- A table whose fields are known by their names. -/
def byName {ι : Type} [Named ι] (t : Table ι) : Table String := ⟨t.fields.map fun (id, s) => (Named.name id, s)⟩

/-- The field tables. -/
def tables : List (String × Table String) :=
  [("GET_LOG_PAGE_CDW10", byName Nvme.getLogPageDword10), ("GET_LOG_PAGE_CDW11", byName Nvme.getLogPageDword11),
   ("GET_LOG_PAGE_CDW12", byName Nvme.getLogPageDword12), ("GET_LOG_PAGE_CDW13", byName Nvme.getLogPageDword13),
   ("GET_LOG_PAGE_CDW14", byName Nvme.getLogPageDword14), ("HEALTH_LOG", byName Nvme.healthTable),
   ("IDENTIFY_CDW10", byName Nvme.identifyDword10), ("IDENTIFY_CONTROLLER", byName Nvme.controllerTable),
   ("IDENTIFY_NAMESPACE", byName Nvme.namespaceTable), ("PEL_HEADER", byName EventLog.headerTable),
   ("EVENT_HEADER", byName EventLog.eventTable), ("FIRMWARE_COMMIT_EVENT", byName EventLog.firmwareCommitTable),
   ("TIMESTAMP_CHANGE_EVENT", byName EventLog.timestampChangeTable),
   ("POWER_ON_RESET_EVENT", byName EventLog.powerOnTable),
   ("POWER_ON_RESET_DESCRIPTOR", byName EventLog.powerOnDescriptorTable),
   ("CHANGE_NAMESPACE_EVENT", byName EventLog.changeNamespaceTable),
   ("SANITIZE_START_EVENT", byName EventLog.sanitizeStartTable),
   ("THERMAL_EXCURSION_EVENT", byName EventLog.thermalExcursionTable),
   ("ATA_PASS_THROUGH_12", byName Ata.passThrough12), ("ATA_PASS_THROUGH_16", byName Ata.passThrough16),
   ("IDENTIFY_DEVICE", byName Ata.identityTable)]

/-- The register layouts. -/
def layouts : List RegisterLayout :=
  [Nvme.StatusWord.layout, Nvme.completionStatus, Nvme.commandDword0, Scsi.responseByte, Scsi.senseKeyByte,
   Nvme.LogPageAttributes.layout, Nvme.OptionalAdminCommands.layout]

/-- The code families. -/
def families : List CodeFamily :=
  [Nvme.AdminOpcode.family, Nvme.IoOpcode.family, Nvme.StatusCodeType.family, Nvme.StatusCode.family,
   Nvme.IdentifyTarget.family, Nvme.LogPage.family, EventLog.ContextAction.family, EventLog.EventType.family,
   Scsi.Operation.family, Scsi.SenseKey.family, Scsi.ResponseCode.family, Scsi.AdditionalSenseCode.family,
   Ata.Protocol.family, Ata.Command.family, Ata.SmartFeature.family, Ata.TransferLength.family]

/-- The field table of a name. -/
def table? (name : String) : Option (Table String) := tables.lookup name

/-- The register layout of a name. -/
def layout? (name : String) : Option RegisterLayout := layouts.find? fun l => l.name = name

/-- The code family of a name. -/
def family? (name : String) : Option CodeFamily := families.find? fun f => f.name = name

end StorageCommands.Catalogue
