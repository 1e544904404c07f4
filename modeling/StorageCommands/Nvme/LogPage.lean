import StorageCommands.Code
import StorageCommands.Layout.Table
import StorageCommands.Text.Display

/-!
# Log pages

The layouts of the dwords of Get Log Page and of the SMART / Health Information page, and `HealthSummary.decode`,
which reads the parts of that page that the library uses.
-/

namespace StorageCommands.Nvme

open Layout

/-! ## The command -/

/-- The number of a log page. -/
abbrev LogPage := UInt8

namespace LogPage

/-- SMART / Health Information. -/
def health : LogPage := 0x02

/-- The Persistent Event Log. -/
def persistentEvent : LogPage := 0x0d

def family : CodeFamily where
  name := "LogPageIdentifier"
  names :=
    [(0x00, "SUPPORTED_LOG_PAGES"), (0x01, "ERROR_INFORMATION"), (0x02, "HEALTH_INFORMATION"),
     (0x03, "FIRMWARE_SLOT_INFORMATION"), (0x04, "CHANGED_NAMESPACE_LIST"), (0x05, "COMMANDS_SUPPORTED_AND_EFFECTS"),
     (0x06, "DEVICE_SELF_TEST"), (0x07, "TELEMETRY_HOST_INITIATED"), (0x08, "TELEMETRY_CONTROLLER_INITIATED"),
     (0x0d, "PERSISTENT_EVENT")]

end LogPage

inductive GetLogPageField
  /-- The log page. -/
  | lid
  /-- A parameter whose meaning depends on the log page. -/
  | lsp
  /-- Keep the event that the page belongs to. -/
  | rae
  /-- The number of dwords less one, low 16 bits. -/
  | numdl
  /-- The number of dwords less one, high 16 bits. -/
  | numdu
  /-- An identifier whose meaning depends on the log page. -/
  | lsi
  /-- The offset into the page, low 32 bits. -/
  | lpol
  /-- The offset into the page, high 32 bits. -/
  | lpou
  | uuidIndex
  /-- The offset counts entries, not bytes. -/
  | ot
  /-- The command set. -/
  | csi
  deriving DecidableEq, Repr

instance : Named GetLogPageField where
  name
    | .lid => "Lid"
    | .lsp => "Lsp"
    | .rae => "Rae"
    | .numdl => "Numdl"
    | .numdu => "Numdu"
    | .lsi => "Lsi"
    | .lpol => "Lpol"
    | .lpou => "Lpou"
    | .uuidIndex => "UuidIndex"
    | .ot => "Ot"
    | .csi => "Csi"

/-- Dword 10 of Get Log Page. -/
def getLogPageDword10 : Table GetLogPageField :=
  ⟨[(.lid, .bits 0 8), (.lsp, .bits 8 7), (.rae, .bits 15 1), (.numdl, .bits 16 16)]⟩

/-- Dword 11 of Get Log Page. -/
def getLogPageDword11 : Table GetLogPageField := ⟨[(.numdu, .bits 0 16), (.lsi, .bits 16 16)]⟩

/-- Dword 12 of Get Log Page. -/
def getLogPageDword12 : Table GetLogPageField := ⟨[(.lpol, .bits 0 32)]⟩

/-- Dword 13 of Get Log Page. -/
def getLogPageDword13 : Table GetLogPageField := ⟨[(.lpou, .bits 0 32)]⟩

/-- Dword 14 of Get Log Page. -/
def getLogPageDword14 : Table GetLogPageField := ⟨[(.uuidIndex, .bits 0 7), (.ot, .bits 23 1), (.csi, .bits 24 8)]⟩

/-! ## SMART / Health Information -/

/-- The size of the SMART / Health Information page. -/
def healthLength : Nat := 512

/-- The fields of the SMART / Health Information page. Counters of 128 bits are read as their low 64 bits. -/
inductive HealthField
  | spareBelowThreshold | temperatureThreshold | reliabilityDegraded | readOnly | volatileBackupFailed
  | persistentMemoryReadOnly | compositeTemperature | availableSpare | availableSpareThreshold | percentageUsed
  | dataUnitsRead | dataUnitsWritten | hostReadCommands | hostWriteCommands | controllerBusyTime | powerCycles
  | powerOnHours | unsafeShutdowns | mediaErrors | errorLogEntries
  deriving DecidableEq, Repr

instance : Named HealthField where
  name
    | .spareBelowThreshold => "SpareBelowThreshold"
    | .temperatureThreshold => "TemperatureThreshold"
    | .reliabilityDegraded => "ReliabilityDegraded"
    | .readOnly => "ReadOnly"
    | .volatileBackupFailed => "VolatileBackupFailed"
    | .persistentMemoryReadOnly => "PersistentMemoryReadOnly"
    | .compositeTemperature => "CompositeTemperature"
    | .availableSpare => "AvailableSpare"
    | .availableSpareThreshold => "AvailableSpareThreshold"
    | .percentageUsed => "PercentageUsed"
    | .dataUnitsRead => "DataUnitsRead"
    | .dataUnitsWritten => "DataUnitsWritten"
    | .hostReadCommands => "HostReadCommands"
    | .hostWriteCommands => "HostWriteCommands"
    | .controllerBusyTime => "ControllerBusyTime"
    | .powerCycles => "PowerCycles"
    | .powerOnHours => "PowerOnHours"
    | .unsafeShutdowns => "UnsafeShutdowns"
    | .mediaErrors => "MediaErrors"
    | .errorLogEntries => "ErrorLogEntries"

/-- The SMART / Health Information page. -/
def healthTable : Table HealthField :=
  ⟨[(.spareBelowThreshold, .mask 0 0x01 .big),
    (.temperatureThreshold, .mask 0 0x02 .big),
    (.reliabilityDegraded, .mask 0 0x04 .big),
    (.readOnly, .mask 0 0x08 .big),
    (.volatileBackupFailed, .mask 0 0x10 .big),
    (.persistentMemoryReadOnly, .mask 0 0x20 .big),
    (.compositeTemperature, .bytes 1 2 .littleEndian),
    (.availableSpare, .bytes 3 1 .littleEndian),
    (.availableSpareThreshold, .bytes 4 1 .littleEndian),
    (.percentageUsed, .bytes 5 1 .littleEndian),
    (.dataUnitsRead, .bytes 32 8 .littleEndian),
    (.dataUnitsWritten, .bytes 48 8 .littleEndian),
    (.hostReadCommands, .bytes 64 8 .littleEndian),
    (.hostWriteCommands, .bytes 80 8 .littleEndian),
    (.controllerBusyTime, .bytes 96 8 .littleEndian),
    (.powerCycles, .bytes 112 8 .littleEndian),
    (.powerOnHours, .bytes 128 8 .littleEndian),
    (.unsafeShutdowns, .bytes 144 8 .littleEndian),
    (.mediaErrors, .bytes 160 8 .littleEndian),
    (.errorLogEntries, .bytes 176 8 .littleEndian)]⟩

/-- What the controller warns of. -/
structure CriticalWarnings where
  spareBelowThreshold : Bool
  temperatureThreshold : Bool
  reliabilityDegraded : Bool
  readOnly : Bool
  volatileBackupFailed : Bool
  persistentMemoryReadOnly : Bool
  deriving DecidableEq, Repr

namespace CriticalWarnings

/-- The warnings in the order of their bits. -/
def toList (w : CriticalWarnings) : List Bool :=
  [w.spareBelowThreshold, w.temperatureThreshold, w.reliabilityDegraded, w.readOnly, w.volatileBackupFailed,
   w.persistentMemoryReadOnly]

/-- Whether there is a warning. -/
def any (w : CriticalWarnings) : Bool := w.toList.any id

/-- The warnings as one line. -/
def display (w : CriticalWarnings) : String :=
  Display.record "CriticalWarnings"
    [("spare_below_threshold", Display.bool w.spareBelowThreshold),
     ("temperature_threshold", Display.bool w.temperatureThreshold),
     ("reliability_degraded", Display.bool w.reliabilityDegraded), ("read_only", Display.bool w.readOnly),
     ("volatile_backup_failed", Display.bool w.volatileBackupFailed),
     ("persistent_memory_read_only", Display.bool w.persistentMemoryReadOnly)]

end CriticalWarnings

/-- What the library reads of the SMART / Health Information page. -/
structure HealthSummary where
  criticalWarnings : CriticalWarnings
  /-- In Kelvin. -/
  compositeTemperature : UInt16
  /-- In percent. -/
  availableSpare : UInt8
  availableSpareThreshold : UInt8
  /-- The vendor's estimate of the life used; may exceed 100. -/
  percentageUsed : UInt8
  /-- In units of 1000 blocks of 512 bytes. -/
  dataUnitsRead : UInt64
  dataUnitsWritten : UInt64
  powerCycles : UInt64
  powerOnHours : UInt64
  unsafeShutdowns : UInt64
  mediaErrors : UInt64
  errorLogEntries : UInt64
  deriving DecidableEq, Repr

namespace HealthSummary

/-- Reads the SMART / Health Information page. -/
def decode (data : Bytes) : Except Layout.Error HealthSummary := do
  let v ← healthTable.decode data
  return {
    criticalWarnings := {
      spareBelowThreshold := v.flag .spareBelowThreshold
      temperatureThreshold := v.flag .temperatureThreshold
      reliabilityDegraded := v.flag .reliabilityDegraded
      readOnly := v.flag .readOnly
      volatileBackupFailed := v.flag .volatileBackupFailed
      persistentMemoryReadOnly := v.flag .persistentMemoryReadOnly }
    compositeTemperature := UInt16.ofNat (v.uint .compositeTemperature)
    availableSpare := UInt8.ofNat (v.uint .availableSpare)
    availableSpareThreshold := UInt8.ofNat (v.uint .availableSpareThreshold)
    percentageUsed := UInt8.ofNat (v.uint .percentageUsed)
    dataUnitsRead := UInt64.ofNat (v.uint .dataUnitsRead)
    dataUnitsWritten := UInt64.ofNat (v.uint .dataUnitsWritten)
    powerCycles := UInt64.ofNat (v.uint .powerCycles)
    powerOnHours := UInt64.ofNat (v.uint .powerOnHours)
    unsafeShutdowns := UInt64.ofNat (v.uint .unsafeShutdowns)
    mediaErrors := UInt64.ofNat (v.uint .mediaErrors)
    errorLogEntries := UInt64.ofNat (v.uint .errorLogEntries) }

/-- The summary as one line. -/
def display (h : HealthSummary) : String :=
  Display.record "HealthSummary"
    [("critical_warnings", h.criticalWarnings.display), ("composite_temperature", toString h.compositeTemperature),
     ("available_spare", toString h.availableSpare),
     ("available_spare_threshold", toString h.availableSpareThreshold),
     ("percentage_used", toString h.percentageUsed), ("data_units_read", toString h.dataUnitsRead),
     ("data_units_written", toString h.dataUnitsWritten), ("power_cycles", toString h.powerCycles),
     ("power_on_hours", toString h.powerOnHours), ("unsafe_shutdowns", toString h.unsafeShutdowns),
     ("media_errors", toString h.mediaErrors), ("error_log_entries", toString h.errorLogEntries)]

end HealthSummary

end StorageCommands.Nvme
