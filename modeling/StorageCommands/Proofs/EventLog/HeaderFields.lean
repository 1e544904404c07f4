import StorageCommands.EventLog.Header
import StorageCommands.Proofs.Nvme.Answers

/-!
# The fields of a header

A header is read by its table as the other structures of a controller are (`Header.readBy`). Its bitmap of event types
is copied into 32 bytes, which is what the table has for it, so the copy never halts.

`answers_read` says of all four decoders that the library has for such structures what they come to.
-/

namespace StorageCommands.EventLog

open Bytes Layout

namespace Header

/-- The header that the fields of the structure have, with the bitmap of event types. -/
def ofValues (v : Values HeaderField) (supportedEvents : Bytes) : Header where
  logIdentifier := UInt8.ofNat (v.uint .logIdentifier)
  totalEvents := UInt32.ofNat (v.uint .tnev)
  totalLogLength := UInt64.ofNat (v.uint .tll)
  logRevision := UInt8.ofNat (v.uint .logRevision)
  headerLength := UInt16.ofNat (v.uint .logHeaderLength)
  timestamp := UInt64.ofNat (v.uint .timestamp)
  powerOnHours := UInt64.ofNat (v.uint .poh)
  powerCycleCount := UInt64.ofNat (v.uint .powerCycleCount)
  vendorId := UInt16.ofNat (v.uint .vid)
  subsystemVendorId := UInt16.ofNat (v.uint .ssvid)
  serialNumber := v.text .sn
  modelNumber := v.text .mn
  subsystemName := v.text .subnqn
  generationNumber := UInt16.ofNat (v.uint .generationNumber)
  reportingContext := UInt32.ofNat (v.uint .reportingContext)
  supportedEvents

/-- Reads a header step by step. -/
def Stepwise.decode (data : Bytes) : EventLog.Stepwise.Work Layout.Error Header := do
  let v ← EventLog.Stepwise.decode headerTable id data
  let supportedEvents ← match v.bytes? .supportedEventsBitmap with
    | some bitmap => EventLog.Stepwise.copy (zeros 32) bitmap
    | none => pure (zeros 32)
  return ofValues v supportedEvents

/-- A header is what the bytes say: every integer with all its bits, the texts without their padding, and the bitmap. -/
structure ReadFrom (h : Header) (b : Bytes) : Prop where
  logIdentifier : headerTable.HasInteger b .logIdentifier h.logIdentifier.toNat
  totalEvents : headerTable.HasInteger b .tnev h.totalEvents.toNat
  totalLogLength : headerTable.HasInteger b .tll h.totalLogLength.toNat
  logRevision : headerTable.HasInteger b .logRevision h.logRevision.toNat
  headerLength : headerTable.HasInteger b .logHeaderLength h.headerLength.toNat
  timestamp : headerTable.HasInteger b .timestamp h.timestamp.toNat
  powerOnHours : headerTable.HasInteger b .poh h.powerOnHours.toNat
  powerCycleCount : headerTable.HasInteger b .powerCycleCount h.powerCycleCount.toNat
  vendorId : headerTable.HasInteger b .vid h.vendorId.toNat
  subsystemVendorId : headerTable.HasInteger b .ssvid h.subsystemVendorId.toNat
  serialNumber : headerTable.HasText b .sn h.serialNumber
  modelNumber : headerTable.HasText b .mn h.modelNumber
  subsystemName : headerTable.HasText b .subnqn h.subsystemName
  generationNumber : headerTable.HasInteger b .generationNumber h.generationNumber.toNat
  reportingContext : headerTable.HasInteger b .reportingContext h.reportingContext.toNat
  supportedEvents : headerTable.HasBytes b .supportedEventsBitmap h.supportedEvents

theorem decode_eq (b : Bytes) :
    decode b = (headerTable.decode b).map fun v =>
      ofValues v ((v.bytes? .supportedEventsBitmap).getD (zeros 32)) := by
  rw [decode]
  cases headerTable.decode b <;> rfl

theorem bitmap_of_decode {b : Bytes} {v : Values HeaderField} (h : headerTable.decode b = .ok v) :
    v.bytes? .supportedEventsBitmap = some (b.slice 480 32) ∧ (b.slice 480 32).length = 32 :=
  have hspec : headerTable.spec? .supportedEventsBitmap = some (.bytes 480 32 .raw) := rfl
  ⟨Table.bytes?_of_decode h hspec, length_slice (Table.stop_le_of_decode h (Table.mem_of_spec? hspec))⟩

theorem readFrom_ofValues (b : Bytes) (v : Values HeaderField) (h : headerTable.decode b = .ok v) :
    (ofValues v ((v.bytes? .supportedEventsBitmap).getD (zeros 32))).ReadFrom b where
  logIdentifier := Table.hasByte h rfl
  totalEvents := Table.hasDword h rfl
  totalLogLength := Table.hasQword h rfl
  logRevision := Table.hasByte h rfl
  headerLength := Table.hasWord h rfl
  timestamp := Table.hasQword h rfl
  powerOnHours := Table.hasQword h rfl
  powerCycleCount := Table.hasQword h rfl
  vendorId := Table.hasWord h rfl
  subsystemVendorId := Table.hasWord h rfl
  serialNumber := Table.hasText h rfl
  modelNumber := Table.hasText h rfl
  subsystemName := Table.hasText h rfl
  generationNumber := Table.hasWord h rfl
  reportingContext := Table.hasDword h rfl
  supportedEvents := by
    rw [(bitmap_of_decode h).1]
    exact Table.hasBytes h rfl

/-- **Step by step**: the bitmap fills what it is copied into. -/
theorem stepwise_eq (b : Bytes) : Stepwise.decode b = (decode b).mapError .refused := by
  rw [Stepwise.decode, EventLog.Stepwise.decode_eq (by decide), decode_eq]
  cases h : headerTable.decode b with
  | error err => rfl
  | ok v =>
    obtain ⟨hbitmap, hlength⟩ := bitmap_of_decode h
    have hcopy : EventLog.Stepwise.copy (zeros 32) (b.slice 480 32)
        = (.ok (b.slice 480 32) : EventLog.Stepwise.Work Layout.Error Bytes) := EventLog.Stepwise.copy_eq hlength
    simp only [Except.mapError, Except.map, hbitmap, hcopy, bind, Except.bind, Option.getD_some]
    rfl

/-- **The header of a log.** -/
theorem readBy : headerTable.ReadBy decode Stepwise.decode ReadFrom := .of_build decode_eq readFrom_ofValues stepwise_eq

end Header

open Nvme

/-- **What is read of the structures of a controller**: of the two Identify structures, the SMART / Health Information
page and the header of the event log.

Each is refused exactly if it is shorter than its table, with a report of the first field that is not all there. What is
read of it has every integer as the bytes of its field say it, in little-endian order or under the mask of the field, so
no bit of it is lost; the count of block formats alone is one more, and wraps around. The bits outside the fields make
no difference. Done step by step, nothing else halts. -/
theorem answers_read :
    controllerTable.ReadBy ControllerIdentity.decode ControllerIdentity.Stepwise.decode ControllerIdentity.ReadFrom
    ∧ namespaceTable.ReadBy NamespaceIdentity.decode NamespaceIdentity.Stepwise.decode NamespaceIdentity.ReadFrom
    ∧ healthTable.ReadBy HealthSummary.decode HealthSummary.Stepwise.decode HealthSummary.ReadFrom
    ∧ headerTable.ReadBy Header.decode Header.Stepwise.decode Header.ReadFrom :=
  ⟨ControllerIdentity.readBy, NamespaceIdentity.readBy, HealthSummary.readBy, Header.readBy⟩

end StorageCommands.EventLog
