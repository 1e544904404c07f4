import StorageCommands.Code
import StorageCommands.EventLog.Error
import StorageCommands.EventLog.Header

/-!
# Events of the persistent event log

Events follow the header of the log without gaps. An event has a header of 24 bytes, then vendor information, then
event data. Its header gives the header's own length less three (EHL), the length of the vendor information (VSIL),
and the length of vendor information and data together (EL).

`walk` goes over the events of a log; it ends with an error at the first one that does not fit.
-/

namespace StorageCommands.EventLog

open Layout Trace

/-- The bytes at the start of an event that its header length leaves out. -/
def fixedHeaderLength : Nat := 3

def eventHeaderLength : Nat := 24

/-- The type of an event. -/
abbrev EventType := UInt8

namespace EventType

/-- A firmware image was committed. -/
def firmwareCommit : EventType := 0x02

/-- The clock was set. -/
def timestampChange : EventType := 0x03

/-- The power came on, or the controller was reset. -/
def powerOnOrReset : EventType := 0x04

/-- A namespace was created, deleted or changed. -/
def changeNamespace : EventType := 0x06

/-- A sanitize operation began. -/
def sanitizeStart : EventType := 0x09

/-- The temperature crossed a threshold. -/
def thermalExcursion : EventType := 0x0d

def family : CodeFamily where
  name := "PersistentEventType"
  names :=
    [(0x01, "SMART_HEALTH_SNAPSHOT"), (0x02, "FIRMWARE_COMMIT"), (0x03, "TIMESTAMP_CHANGE"),
     (0x04, "POWER_ON_OR_RESET"), (0x05, "NVM_SUBSYSTEM_HARDWARE_ERROR"), (0x06, "CHANGE_NAMESPACE"),
     (0x07, "FORMAT_NVM_START"), (0x08, "FORMAT_NVM_COMPLETION"), (0x09, "SANITIZE_START"),
     (0x0a, "SANITIZE_COMPLETION"), (0x0b, "SET_FEATURE"), (0x0c, "TELEMETRY_LOG_CREATED"),
     (0x0d, "THERMAL_EXCURSION"), (0xde, "VENDOR_SPECIFIC"), (0xdf, "TCG_DEFINED")]

end EventType

/-! ## Event headers -/

inductive EventField
  | eventType | eventTypeRevision
  /-- The length of the header less three. -/
  | ehl
  | additionalInfo | controllerIdentifier
  /-- Milliseconds; the 16 bits above are no part of it. -/
  | eventTimestamp
  | portIdentifier
  /-- The length of the vendor information. -/
  | vsil
  /-- The length of vendor information and event data. -/
  | el
  deriving DecidableEq, Repr

instance : Named EventField where
  name
    | .eventType => "EventType"
    | .eventTypeRevision => "EventTypeRevision"
    | .ehl => "Ehl"
    | .additionalInfo => "AdditionalInfo"
    | .controllerIdentifier => "ControllerIdentifier"
    | .eventTimestamp => "EventTimestamp"
    | .portIdentifier => "PortIdentifier"
    | .vsil => "Vsil"
    | .el => "El"

def eventTable : Table EventField :=
  ⟨[(.eventType, .bytes 0 1 .littleEndian),
    (.eventTypeRevision, .bytes 1 1 .littleEndian),
    (.ehl, .bytes 2 1 .littleEndian),
    (.additionalInfo, .bytes 3 1 .littleEndian),
    (.controllerIdentifier, .bytes 4 2 .littleEndian),
    (.eventTimestamp, .bits 48 48),
    (.portIdentifier, .bytes 14 2 .littleEndian),
    (.vsil, .bytes 20 2 .littleEndian),
    (.el, .bytes 22 2 .littleEndian)]⟩

/-- An event of a log. -/
structure Event where
  /-- Where the event begins in the log. -/
  offset : Nat
  type : EventType
  revision : UInt8
  /-- The length of the event's header less three. -/
  headerLength : UInt8
  additionalInfo : UInt8
  controllerId : UInt16
  /-- In milliseconds. -/
  timestamp : UInt64
  portId : UInt16
  vendorInfo : Bytes
  data : Bytes
  deriving DecidableEq, Repr

/-- The number of bytes that an event takes up in the log. -/
def Event.size (e : Event) : Nat :=
  e.headerLength.toNat + fixedHeaderLength + (e.vendorInfo.length + e.data.length)

/-! ## Walking the log -/

/-- The event at the start of `rest`, where `available` bytes of the log are left. -/
def readEvent (index offset available : Nat) (rest : Bytes) : Except Error Event := do
  if available < eventHeaderLength then throw (.truncatedLog index offset eventHeaderLength available)
  match eventTable.decode (rest.take eventHeaderLength) with
  | .error e => throw (.header e)
  | .ok h =>
    let bodyStart := h.uint .ehl + fixedHeaderLength
    let size := bodyStart + h.uint .el
    if available < size then throw (.truncatedLog index offset size available)
    let body := rest.slice bodyStart (h.uint .el)
    return {
      offset
      type := UInt8.ofNat (h.uint .eventType)
      revision := UInt8.ofNat (h.uint .eventTypeRevision)
      headerLength := UInt8.ofNat (h.uint .ehl)
      additionalInfo := UInt8.ofNat (h.uint .additionalInfo)
      controllerId := UInt16.ofNat (h.uint .controllerIdentifier)
      timestamp := UInt64.ofNat (h.uint .eventTimestamp)
      portId := UInt16.ofNat (h.uint .portIdentifier)
      vendorInfo := body.take (h.uint .vsil)
      data := body.drop (h.uint .vsil) }

/-- The events that a walk came over, and the error that ended it early. -/
structure Walk where
  events : List Event
  failure : Option Error
  deriving DecidableEq, Repr

/-- Walks over `count` events from an offset of a log of `len` bytes on; `rest` is the log from there. -/
def walkFrom (len : Nat) : (count index offset : Nat) → (rest : Bytes) → Walk
  | 0, _, _, _ => ⟨[], none⟩
  | count + 1, index, offset, rest =>
    match readEvent index offset (len - offset) rest with
    | .error e => ⟨[], some e⟩
    | .ok event =>
      let w := walkFrom len count (index + 1) (offset + event.size) (rest.drop event.size)
      { w with events := event :: w.events }

/-- Walks over the first `count` events of a log, header included. -/
def walk (log : Bytes) (count : Nat) : Walk :=
  walkFrom log.length count 0 headerLength (log.drop headerLength)

/-- The events of a walk that no error ended. -/
def Walk.result (w : Walk) : Except Error (List Event) :=
  match w.failure with
  | none => .ok w.events
  | some e => .error e

/-- The first `count` events of a log. -/
def events (log : Bytes) (count : Nat) : Except Error (List Event) := (walk log count).result

/-- What a walk reports, in order. -/
def Walk.report (w : Walk) : List Trace.Event :=
  w.events.zipIdx.map fun (e, index) =>
    ⟨.trace, "nvme_pel::event", "event",
      [("index", toString index), ("offset", toString e.offset),
       ("event_type", EventType.family.display e.type.toNat), ("size", toString e.size)]⟩

end StorageCommands.EventLog
