import StorageCommands.Nvme.Identify
import StorageCommands.Nvme.LogPage
import StorageCommands.Proofs.EventLog.EventData

/-!
# What is read of an answer

The structures that a controller answers with are read by their tables. `Table.ReadBy` says what that comes to: reading
fails only on a string that is too short, each part of the result is what the string has in the place of a field, and no
bit outside the fields makes a difference.

- `Table.ReadBy.of_build`: it is enough that a decoder builds its result from what the table has, and that what is built
  keeps every bit.
- `ControllerIdentity.readBy`, `NamespaceIdentity.readBy`, `HealthSummary.readBy`: the two Identify structures and the
  SMART / Health Information page.
-/

namespace StorageCommands

open Bytes

namespace Layout.Table

/-! ## Masked integers and bytes -/

section

variable {ι : Type} [DecidableEq ι]

/-- A byte string has an integer under the mask of a field. -/
def HasMasked (t : Table ι) (b : Bytes) (id : ι) (n : Nat) : Prop :=
  ∃ offset m order, t.spec? id = some (.mask offset m order) ∧ offset + maskWidth m ≤ b.length
    ∧ (order.read (b.slice offset (maskWidth m)) &&& m) >>> trailingZeros m = n

/-- A byte string has some bytes in the place of a field. -/
def HasBytes (t : Table ι) (b : Bytes) (id : ι) (x : Bytes) : Prop :=
  ∃ offset len, t.spec? id = some (.bytes offset len .raw) ∧ offset + len ≤ b.length ∧ b.slice offset len = x

variable [Named ι] {t : Table ι} {b : Bytes} {v : Values ι} {id : ι} {offset : Nat}

section

variable {m : Nat} {order : ByteOrder} (h : t.decode b = .ok v) (hs : t.spec? id = some (.mask offset m order))
include h hs

theorem hasMasked : t.HasMasked b id (v.uint id) :=
  ⟨offset, m, order, hs, stop_le_of_decode h (mem_of_spec? hs), (uint_of_decode h hs rfl).symm⟩

theorem uint_le_mask : v.uint id ≤ m >>> trailingZeros m := by
  rw [uint_of_decode h hs rfl, Nat.shiftRight_eq_div_pow, Nat.shiftRight_eq_div_pow]
  exact Nat.div_le_div_right Nat.and_le_right

/-- An integer under a mask of up to eight bits is kept in a byte. -/
theorem hasMasked_byte (hm : m >>> trailingZeros m < 2 ^ 8) : t.HasMasked b id (UInt8.ofNat (v.uint id)).toNat := by
  rw [UInt8.toNat_ofNat', Nat.mod_eq_of_lt (Nat.lt_of_le_of_lt (uint_le_mask h hs) hm)]
  exact hasMasked h hs

/-- The bit under a mask of one is kept as a truth value. -/
theorem hasFlag (hm : m >>> trailingZeros m = 1) : t.HasMasked b id (v.flag id).toNat := by
  have hflag : v.flag id = decide (v.uint id ≠ 0) := by
    rw [Values.flag, Values.uint, Values.uint?, get?_of_decode h, hs, Option.map_some, Spec.read]
    rfl
  have hbit : (v.flag id).toNat = v.uint id := by
    rcases Nat.le_one_iff_eq_zero_or_eq_one.1 (hm ▸ uint_le_mask h hs) with hzero | hone
    · rw [hflag, hzero]
      rfl
    · rw [hflag, hone]
      rfl
  rw [hbit]
  exact hasMasked h hs

end

theorem bytes?_of_decode {len : Nat} (h : t.decode b = .ok v) (hs : t.spec? id = some (.bytes offset len .raw)) :
    v.bytes? id = some (b.slice offset len) := by
  rw [Values.bytes?, get?_of_decode h, hs]
  rfl

theorem hasBytes {len : Nat} (h : t.decode b = .ok v) (hs : t.spec? id = some (.bytes offset len .raw)) :
    t.HasBytes b id (b.slice offset len) :=
  ⟨offset, len, hs, stop_le_of_decode h (mem_of_spec? hs), rfl⟩

end

/-! ## Decoders that read a table -/

section

variable {ι α : Type}

/-- A bit lies in a field of the table. -/
def Covers (t : Table ι) (pos : Nat) : Prop := ∃ f ∈ t.fields, f.2.covers pos = true

/-- Strings that agree on the bits of the fields are decoded to the same, if both are long enough or equally short. -/
theorem decode_congr [Named ι] {t : Table ι} {b c : Bytes}
    (hlen : b.length = c.length ∨ t.minLength ≤ b.length ∧ t.minLength ≤ c.length)
    (hbits : ∀ pos, t.Covers pos → b.bitAt pos = c.bitAt pos) : t.decode b = t.decode c := by
  by_cases hb : t.minLength ≤ b.length
  · have hc : t.minLength ≤ c.length := hlen.elim (fun heq => heq ▸ hb) And.right
    rw [decode_eq_ok hb, decode_eq_ok hc]
    refine congrArg (fun entries => Except.ok (Values.mk entries)) (List.map_congr_left fun f hf => ?_)
    have hstop := stop_le_minLength hf
    exact Prod.ext rfl (Spec.read_congr (Nat.le_trans hstop hb) (Nat.le_trans hstop hc) fun pos hp =>
      hbits pos ⟨f, hf, hp⟩)
  · have heq : b.length = c.length := hlen.elim id fun hlong => absurd hlong.1 hb
    obtain ⟨err, herr⟩ := exists_lacks (Nat.lt_of_not_le hb)
    rw [herr.decode, (heq ▸ herr : t.Lacks c.length err).decode]

/-- What decoding by a table comes to, in one go and step by step. -/
structure ReadBy [Named ι] (t : Table ι) (decode : Bytes → Except Error α)
    (stepwise : Bytes → EventLog.Stepwise.Work Error α) (ReadFrom : α → Bytes → Prop) : Prop where
  refused : ∀ b, (∃ field stop len, decode b = .error (.bufferTooSmall field stop len)) ↔ b.length < t.minLength
  /-- The error is about the first field that the string does not have. -/
  reported : ∀ b err, decode b = .error err ↔ t.Lacks b.length err
  readFrom : ∀ b a, decode b = .ok a → ReadFrom a b
  /-- Only the bits of the fields matter. -/
  determined : ∀ b c : Bytes, b.length = c.length ∨ t.minLength ≤ b.length ∧ t.minLength ≤ c.length →
    (∀ pos, t.Covers pos → b.bitAt pos = c.bitAt pos) → decode b = decode c
  /-- Nothing halts but the decoding of a string that is too short. -/
  stepwise_eq : ∀ b, stepwise b = (decode b).mapError .refused

theorem map_eq_error_iff {build : Values ι → α} {x : Except Error (Values ι)} {err : Error} :
    x.map build = .error err ↔ x = .error err := by
  cases x <;> simp [Except.map]

theorem map_eq_ok_iff {build : Values ι → α} {x : Except Error (Values ι)} {a : α} :
    x.map build = .ok a ↔ ∃ v, x = .ok v ∧ build v = a := by
  cases x <;> simp [Except.map]

variable [Named ι] {t : Table ι} {decode : Bytes → Except Error α} {build : Values ι → α}

/-- **A decoder that builds its result from what the table has.** -/
theorem ReadBy.of_build {stepwise : Bytes → EventLog.Stepwise.Work Error α} {ReadFrom : α → Bytes → Prop}
    (hdecode : ∀ b, decode b = (t.decode b).map build) (hread : ∀ b v, t.decode b = .ok v → ReadFrom (build v) b)
    (hstepwise : ∀ b, stepwise b = (decode b).mapError .refused) : t.ReadBy decode stepwise ReadFrom where
  refused b := by
    simp only [hdecode, map_eq_error_iff, decode_eq_error_iff]
    constructor
    · rintro ⟨field, stop, len, hlacks⟩
      exact hlacks.lt
    · intro hshort
      obtain ⟨err, herr⟩ := exists_lacks hshort
      obtain ⟨_, f, _, _, _, _, rfl⟩ := id herr
      exact ⟨_, _, _, herr⟩
  reported b err := by rw [hdecode, map_eq_error_iff, decode_eq_error_iff]
  readFrom b a h := by
    rw [hdecode, map_eq_ok_iff] at h
    obtain ⟨v, hv, rfl⟩ := h
    exact hread b v hv
  determined b c hlen hbits := by rw [hdecode, hdecode, decode_congr hlen hbits]
  stepwise_eq := hstepwise

/-- Building from what is decoded step by step. -/
theorem stepwise_build (ht : ∀ f ∈ t.fields, f.2.WellFormed ∧ InPlace.MachineSized f.2)
    (hdecode : ∀ b, decode b = (t.decode b).map build) (b : Bytes) :
    build <$> EventLog.Stepwise.decode t id b = (decode b).mapError .refused := by
  rw [EventLog.Stepwise.decode_eq ht, hdecode]
  cases t.decode b <;> rfl

/-- A string that is long enough is decoded. -/
theorem exists_of_build (hdecode : ∀ b, decode b = (t.decode b).map build) {b : Bytes} (h : t.minLength ≤ b.length) :
    ∃ a, decode b = .ok a := by
  obtain ⟨v, hv⟩ := decode_isOk_iff.2 h
  exact ⟨build v, by rw [hdecode, hv]; rfl⟩

end

end Layout.Table

namespace Nvme

open Layout

/-! ## Identify -/

namespace ControllerIdentity

/-- The identity that the fields of the structure have. -/
def ofValues (v : Values ControllerField) : ControllerIdentity where
  vendorId := UInt16.ofNat (v.uint .vid)
  subsystemVendorId := UInt16.ofNat (v.uint .ssvid)
  serialNumber := v.text .sn
  modelNumber := v.text .mn
  firmwareRevision := v.text .fr
  maxTransferShift := UInt8.ofNat (v.uint .mdts)
  controllerId := UInt16.ofNat (v.uint .cntlid)
  version := UInt32.ofNat (v.uint .ver)
  optionalAdminCommands := UInt16.ofNat (v.uint .oacs)
  logPageAttributes := UInt8.ofNat (v.uint .lpa)
  eventLogUnits := UInt32.ofNat (v.uint .pels)
  namespaceCount := UInt32.ofNat (v.uint .nn)
  subsystemName := v.text .subnqn

/-- Reads the structure of a controller step by step. -/
def Stepwise.decode (data : Bytes) : EventLog.Stepwise.Work Layout.Error ControllerIdentity :=
  ofValues <$> EventLog.Stepwise.decode controllerTable id data

/-- An identity is what the bytes say: every integer with all its bits, and the texts without their padding. -/
structure ReadFrom (c : ControllerIdentity) (b : Bytes) : Prop where
  vendorId : controllerTable.HasInteger b .vid c.vendorId.toNat
  subsystemVendorId : controllerTable.HasInteger b .ssvid c.subsystemVendorId.toNat
  serialNumber : controllerTable.HasText b .sn c.serialNumber
  modelNumber : controllerTable.HasText b .mn c.modelNumber
  firmwareRevision : controllerTable.HasText b .fr c.firmwareRevision
  maxTransferShift : controllerTable.HasInteger b .mdts c.maxTransferShift.toNat
  controllerId : controllerTable.HasInteger b .cntlid c.controllerId.toNat
  version : controllerTable.HasInteger b .ver c.version.toNat
  optionalAdminCommands : controllerTable.HasInteger b .oacs c.optionalAdminCommands.toNat
  logPageAttributes : controllerTable.HasInteger b .lpa c.logPageAttributes.toNat
  eventLogUnits : controllerTable.HasInteger b .pels c.eventLogUnits.toNat
  namespaceCount : controllerTable.HasInteger b .nn c.namespaceCount.toNat
  subsystemName : controllerTable.HasText b .subnqn c.subsystemName

theorem decode_eq (b : Bytes) : decode b = (controllerTable.decode b).map ofValues := by
  rw [decode]
  cases controllerTable.decode b <;> rfl

theorem readFrom_ofValues (b : Bytes) (v : Values ControllerField) (h : controllerTable.decode b = .ok v) :
    (ofValues v).ReadFrom b where
  vendorId := Table.hasWord h rfl
  subsystemVendorId := Table.hasWord h rfl
  serialNumber := Table.hasText h rfl
  modelNumber := Table.hasText h rfl
  firmwareRevision := Table.hasText h rfl
  maxTransferShift := Table.hasByte h rfl
  controllerId := Table.hasWord h rfl
  version := Table.hasDword h rfl
  optionalAdminCommands := Table.hasWord h rfl
  logPageAttributes := Table.hasByte h rfl
  eventLogUnits := Table.hasDword h rfl
  namespaceCount := Table.hasDword h rfl
  subsystemName := Table.hasText h rfl

/-- **The structure of a controller.** -/
theorem readBy : controllerTable.ReadBy decode Stepwise.decode ReadFrom :=
  .of_build decode_eq readFrom_ofValues (Table.stepwise_build (by decide) decode_eq)

end ControllerIdentity

namespace NamespaceIdentity

/-- The identity that the fields of the structure have. -/
def ofValues (v : Values NamespaceField) : NamespaceIdentity where
  size := UInt64.ofNat (v.uint .nsze)
  capacity := UInt64.ofNat (v.uint .ncap)
  utilization := UInt64.ofNat (v.uint .nuse)
  formatCount := UInt8.ofNat (v.uint .nlbaf) + 1
  formatIndex := UInt8.ofNat (v.uint .flbasIndex)
  format0DataShift := UInt8.ofNat (v.uint .lbaf0Lbads)

/-- Reads the structure of a namespace step by step. -/
def Stepwise.decode (data : Bytes) : EventLog.Stepwise.Work Layout.Error NamespaceIdentity :=
  ofValues <$> EventLog.Stepwise.decode namespaceTable id data

/-- An identity is what the bytes say. The count of formats is one more than the structure has, and a byte. -/
structure ReadFrom (n : NamespaceIdentity) (b : Bytes) : Prop where
  size : namespaceTable.HasInteger b .nsze n.size.toNat
  capacity : namespaceTable.HasInteger b .ncap n.capacity.toNat
  utilization : namespaceTable.HasInteger b .nuse n.utilization.toNat
  formatCount : ∃ k, namespaceTable.HasInteger b .nlbaf k ∧ n.formatCount.toNat = (k + 1) % 256
  formatIndex : namespaceTable.HasMasked b .flbasIndex n.formatIndex.toNat
  format0DataShift : namespaceTable.HasInteger b .lbaf0Lbads n.format0DataShift.toNat

theorem decode_eq (b : Bytes) : decode b = (namespaceTable.decode b).map ofValues := by
  rw [decode]
  cases namespaceTable.decode b <;> rfl

theorem readFrom_ofValues (b : Bytes) (v : Values NamespaceField) (h : namespaceTable.decode b = .ok v) :
    (ofValues v).ReadFrom b where
  size := Table.hasQword h rfl
  capacity := Table.hasQword h rfl
  utilization := Table.hasQword h rfl
  formatCount := ⟨_, Table.hasByte h rfl, UInt8.toNat_add _ 1⟩
  formatIndex := Table.hasMasked_byte h rfl (by decide +kernel)
  format0DataShift := Table.hasByte h rfl

/-- **The structure of a namespace.** -/
theorem readBy : namespaceTable.ReadBy decode Stepwise.decode ReadFrom :=
  .of_build decode_eq readFrom_ofValues (Table.stepwise_build (by decide) decode_eq)

end NamespaceIdentity

/-! ## SMART / Health Information -/

namespace HealthSummary

/-- The summary that the fields of the page have. -/
def ofValues (v : Values HealthField) : HealthSummary where
  criticalWarnings := {
    spareBelowThreshold := v.flag .spareBelowThreshold
    temperatureThreshold := v.flag .temperatureThreshold
    reliabilityDegraded := v.flag .reliabilityDegraded
    readOnly := v.flag .readOnly
    volatileBackupFailed := v.flag .volatileBackupFailed
    persistentMemoryReadOnly := v.flag .persistentMemoryReadOnly }
  compositeTemperature := UInt16.ofNat (v.uint .compositeTemperature)
  availableSpare := UInt8.ofNat (v.uint .availableSpare)
  availableSpareThreshold := UInt8.ofNat (v.uint .availableSpareThreshold)
  percentageUsed := UInt8.ofNat (v.uint .percentageUsed)
  dataUnitsRead := UInt64.ofNat (v.uint .dataUnitsRead)
  dataUnitsWritten := UInt64.ofNat (v.uint .dataUnitsWritten)
  powerCycles := UInt64.ofNat (v.uint .powerCycles)
  powerOnHours := UInt64.ofNat (v.uint .powerOnHours)
  unsafeShutdowns := UInt64.ofNat (v.uint .unsafeShutdowns)
  mediaErrors := UInt64.ofNat (v.uint .mediaErrors)
  errorLogEntries := UInt64.ofNat (v.uint .errorLogEntries)

/-- Reads the page step by step. -/
def Stepwise.decode (data : Bytes) : EventLog.Stepwise.Work Layout.Error HealthSummary :=
  ofValues <$> EventLog.Stepwise.decode healthTable id data

/-- A summary is what the bytes say; each warning is one bit. -/
structure ReadFrom (s : HealthSummary) (b : Bytes) : Prop where
  spareBelowThreshold : healthTable.HasMasked b .spareBelowThreshold s.criticalWarnings.spareBelowThreshold.toNat
  temperatureThreshold : healthTable.HasMasked b .temperatureThreshold s.criticalWarnings.temperatureThreshold.toNat
  reliabilityDegraded : healthTable.HasMasked b .reliabilityDegraded s.criticalWarnings.reliabilityDegraded.toNat
  readOnly : healthTable.HasMasked b .readOnly s.criticalWarnings.readOnly.toNat
  volatileBackupFailed : healthTable.HasMasked b .volatileBackupFailed s.criticalWarnings.volatileBackupFailed.toNat
  persistentMemoryReadOnly :
    healthTable.HasMasked b .persistentMemoryReadOnly s.criticalWarnings.persistentMemoryReadOnly.toNat
  compositeTemperature : healthTable.HasInteger b .compositeTemperature s.compositeTemperature.toNat
  availableSpare : healthTable.HasInteger b .availableSpare s.availableSpare.toNat
  availableSpareThreshold : healthTable.HasInteger b .availableSpareThreshold s.availableSpareThreshold.toNat
  percentageUsed : healthTable.HasInteger b .percentageUsed s.percentageUsed.toNat
  dataUnitsRead : healthTable.HasInteger b .dataUnitsRead s.dataUnitsRead.toNat
  dataUnitsWritten : healthTable.HasInteger b .dataUnitsWritten s.dataUnitsWritten.toNat
  powerCycles : healthTable.HasInteger b .powerCycles s.powerCycles.toNat
  powerOnHours : healthTable.HasInteger b .powerOnHours s.powerOnHours.toNat
  unsafeShutdowns : healthTable.HasInteger b .unsafeShutdowns s.unsafeShutdowns.toNat
  mediaErrors : healthTable.HasInteger b .mediaErrors s.mediaErrors.toNat
  errorLogEntries : healthTable.HasInteger b .errorLogEntries s.errorLogEntries.toNat

theorem decode_eq (b : Bytes) : decode b = (healthTable.decode b).map ofValues := by
  rw [decode]
  cases healthTable.decode b <;> rfl

theorem readFrom_ofValues (b : Bytes) (v : Values HealthField) (h : healthTable.decode b = .ok v) :
    (ofValues v).ReadFrom b where
  spareBelowThreshold := Table.hasFlag h rfl (by decide +kernel)
  temperatureThreshold := Table.hasFlag h rfl (by decide +kernel)
  reliabilityDegraded := Table.hasFlag h rfl (by decide +kernel)
  readOnly := Table.hasFlag h rfl (by decide +kernel)
  volatileBackupFailed := Table.hasFlag h rfl (by decide +kernel)
  persistentMemoryReadOnly := Table.hasFlag h rfl (by decide +kernel)
  compositeTemperature := Table.hasWord h rfl
  availableSpare := Table.hasByte h rfl
  availableSpareThreshold := Table.hasByte h rfl
  percentageUsed := Table.hasByte h rfl
  dataUnitsRead := Table.hasQword h rfl
  dataUnitsWritten := Table.hasQword h rfl
  powerCycles := Table.hasQword h rfl
  powerOnHours := Table.hasQword h rfl
  unsafeShutdowns := Table.hasQword h rfl
  mediaErrors := Table.hasQword h rfl
  errorLogEntries := Table.hasQword h rfl

/-- **The SMART / Health Information page.** -/
theorem readBy : healthTable.ReadBy decode Stepwise.decode ReadFrom :=
  .of_build decode_eq readFrom_ofValues (Table.stepwise_build (by decide) decode_eq)

end HealthSummary

end Nvme

end StorageCommands
