import StorageCommands.Catalogue
import StorageCommands.Proofs.EventLog.Stepwise

/-!
# What event data say

The data of an event of a known type are read by the table of this type (`EventType.table?`), and those of another type
are not read at all.

- `Details.ReadFrom`: details say what the data have. Each integer is the one at the offset of its field, with all its
  bits, and each descriptor of a power-on event is read from its own 36 bytes.
- `outcome_details`: reading fails for one reason only, that the data end before a field of the table does; otherwise it
  gives such details.
- `wholeWindows_flatten`, `details_packed`: descriptors that are stored one after the other are told apart again, and
  each is read as it was stored.
- `details_exact` puts them together, for reading that is done step by step as well (`Stepwise.details`).
-/

namespace StorageCommands

open Layout Bytes Nvme

/-! ## What a table has -/

namespace Layout.Table

section

variable {ι : Type} [DecidableEq ι]

/-- A byte string has an integer in the place of a field, in little-endian order. -/
def HasInteger (t : Table ι) (b : Bytes) (id : ι) (n : Nat) : Prop :=
  ∃ offset len, t.spec? id = some (.bytes offset len .littleEndian) ∧ offset + len ≤ b.length
    ∧ (b.slice offset len).littleEndian = n

/-- A byte string has padded text in the place of a field. -/
def HasText (t : Table ι) (b : Bytes) (id : ι) (x : String) : Prop :=
  ∃ offset len, t.spec? id = some (.bytes offset len .text) ∧ offset + len ≤ b.length
    ∧ Padded.ofBytes (b.slice offset len) = x

variable [Named ι] {t : Table ι} {b : Bytes} {v : Values ι} {id : ι} {offset len : Nat}

theorem hasText (h : t.decode b = .ok v) (hs : t.spec? id = some (.bytes offset len .text)) :
    t.HasText b id (v.text id) :=
  ⟨offset, len, hs, stop_le_of_decode h (mem_of_spec? hs), (text_of_decode h hs rfl).symm⟩

theorem hasInteger (h : t.decode b = .ok v) (hs : t.spec? id = some (.bytes offset len .littleEndian)) :
    t.HasInteger b id (v.uint id) :=
  ⟨offset, len, hs, stop_le_of_decode h (mem_of_spec? hs), (uint_of_decode h hs rfl).symm⟩

theorem uint_lt (h : t.decode b = .ok v) (hs : t.spec? id = some (.bytes offset len .littleEndian)) :
    v.uint id < 2 ^ (8 * len) := by
  rw [uint_of_decode h hs rfl]
  exact littleEndian_slice_lt b offset len

/-- No bit of an integer is lost that is kept in as many bytes as its field has. -/
theorem hasInteger_mod (h : t.decode b = .ok v) (hs : t.spec? id = some (.bytes offset len .littleEndian)) :
    t.HasInteger b id (v.uint id % 2 ^ (8 * len)) := by
  rw [Nat.mod_eq_of_lt (uint_lt h hs)]
  exact hasInteger h hs

theorem hasByte (h : t.decode b = .ok v) (hs : t.spec? id = some (.bytes offset 1 .littleEndian)) :
    t.HasInteger b id (UInt8.ofNat (v.uint id)).toNat := by
  rw [UInt8.toNat_ofNat']
  exact hasInteger_mod h hs

theorem hasWord (h : t.decode b = .ok v) (hs : t.spec? id = some (.bytes offset 2 .littleEndian)) :
    t.HasInteger b id (UInt16.ofNat (v.uint id)).toNat := by
  rw [UInt16.toNat_ofNat']
  exact hasInteger_mod h hs

theorem hasDword (h : t.decode b = .ok v) (hs : t.spec? id = some (.bytes offset 4 .littleEndian)) :
    t.HasInteger b id (UInt32.ofNat (v.uint id)).toNat := by
  rw [UInt32.toNat_ofNat']
  exact hasInteger_mod h hs

theorem hasQword (h : t.decode b = .ok v) (hs : t.spec? id = some (.bytes offset 8 .littleEndian)) :
    t.HasInteger b id (UInt64.ofNat (v.uint id)).toNat := by
  rw [UInt64.toNat_ofNat']
  exact hasInteger_mod h hs

end

section

variable {ι : Type} [Named ι] {t : Table ι} {len : Nat} {err : Error}

theorem Lacks.lt (h : t.Lacks len err) : len < t.minLength := by
  obtain ⟨before, f, after, hfields, -, hlt, -⟩ := h
  have hf : f ∈ t.fields := by rw [hfields]; exact List.mem_append_right _ List.mem_cons_self
  exact Nat.lt_of_lt_of_le hlt (stop_le_minLength hf)

/-- A table of names needs the same bytes. -/
theorem minLength_byName (t : Table ι) : (Catalogue.byName t).minLength = t.minLength := List.foldl_map

/-- A table of names lacks the same field. -/
theorem Lacks.byName (h : t.Lacks len err) : (Catalogue.byName t).Lacks len err := by
  obtain ⟨before, f, after, hfields, hbefore, hlt, rfl⟩ := h
  let named (f : ι × Spec) : String × Spec := (Named.name f.1, f.2)
  have hnamed : (Catalogue.byName t).fields = t.fields.map named := rfl
  refine ⟨before.map named, named f, after.map named, ?_, List.forall_mem_map.2 hbefore, hlt, rfl⟩
  rw [hnamed, hfields, List.map_append, List.map_cons]

end

end Layout.Table

namespace EventLog

/-! ## Windows -/

section

variable {size : Nat} {b w : Bytes}

theorem length_wholeWindows (size : Nat) (b : Bytes) : (wholeWindows size b).length = b.length / size := by
  rw [wholeWindows, List.length_map, List.length_range]

theorem getElem_wholeWindows {i : Nat} (h : i < (wholeWindows size b).length) :
    (wholeWindows size b)[i] = b.slice (size * i) size := by
  simp only [wholeWindows, List.getElem_map, List.getElem_range]

/-- A window lies inside the string. -/
theorem window_le {i : Nat} (h : i < b.length / size) : size * i + size ≤ b.length :=
  Nat.le_trans (Nat.mul_le_mul_left size h) (Nat.mul_div_le ..)

theorem length_of_mem_wholeWindows (h : w ∈ wholeWindows size b) : w.length = size := by
  obtain ⟨i, hi, rfl⟩ := List.mem_map.1 h
  exact length_slice (window_le (List.mem_range.1 hi))

/-- The first window of a string that begins with one. -/
theorem wholeWindows_append (hsize : 0 < size) (hw : w.length = size) (rest : Bytes) :
    wholeWindows size (w ++ rest) = w :: wholeWindows size rest := by
  have hcount : (w ++ rest).length / size = rest.length / size + 1 := by
    rw [List.length_append, hw, Nat.add_div_left _ hsize]
  rw [wholeWindows, hcount, List.range_succ_eq_map, List.map_cons, List.map_map]
  refine congrArg₂ List.cons (List.take_left' hw) (List.map_congr_left fun i _ => ?_)
  change slice (w ++ rest) (size * (i + 1)) size = slice rest (size * i) size
  rw [Nat.mul_succ, Nat.add_comm, ← slice_drop, List.drop_left' hw]

/-- **Windows that are put together are told apart again**, and bytes that fill no window are left out. -/
theorem wholeWindows_flatten (hsize : 0 < size) {ws : List Bytes} (hws : ∀ w ∈ ws, w.length = size) {stray : Bytes}
    (hstray : stray.length < size) : wholeWindows size (ws.flatten ++ stray) = ws := by
  induction ws with
  | nil =>
    rw [wholeWindows, List.flatten_nil, List.nil_append, Nat.div_eq_of_lt hstray]
    rfl
  | cons w ws ih =>
    obtain ⟨hw, hrest⟩ := List.forall_mem_cons.1 hws
    rw [List.flatten_cons, List.append_assoc, wholeWindows_append hsize hw, ih hrest]

end

/-! ## Descriptors of a power-on event -/

namespace PowerOnDescriptor

variable {b : Bytes}

/-- The descriptor that some bytes say. -/
def ofBytes (b : Bytes) : PowerOnDescriptor where
  controllerId := wordAt b 0
  firmwareActivation := b.byteAt 2
  operationInProgress := b.byteAt 3
  powerCycle := dwordAt b 16
  powerOnMilliseconds := qwordAt b 20
  timestamp := qwordAt b 28

/-- A descriptor says what some bytes have. -/
structure ReadFrom (d : PowerOnDescriptor) (b : Bytes) : Prop where
  controllerId : powerOnDescriptorTable.HasInteger b .controllerIdentifier d.controllerId.toNat
  firmwareActivation : powerOnDescriptorTable.HasInteger b .firmwareActivation d.firmwareActivation.toNat
  operationInProgress : powerOnDescriptorTable.HasInteger b .operationInProgress d.operationInProgress.toNat
  powerCycle : powerOnDescriptorTable.HasInteger b .controllerPowerCycle d.powerCycle.toNat
  powerOnMilliseconds : powerOnDescriptorTable.HasInteger b .powerOnMilliseconds d.powerOnMilliseconds.toNat
  timestamp : powerOnDescriptorTable.HasInteger b .controllerTimestamp d.timestamp.toNat

theorem readFrom_ofBytes (h : powerOnDescriptorLength ≤ b.length) : (ofBytes b).ReadFrom b := by
  simp only [powerOnDescriptorLength] at h
  exact {
    controllerId := ⟨0, 2, rfl, by omega, (toNat_wordAt b 0).symm⟩
    firmwareActivation := ⟨2, 1, rfl, by omega, littleEndian_slice_one (by omega)⟩
    operationInProgress := ⟨3, 1, rfl, by omega, littleEndian_slice_one (by omega)⟩
    powerCycle := ⟨16, 4, rfl, by omega, (toNat_dwordAt b 16).symm⟩
    powerOnMilliseconds := ⟨20, 8, rfl, by omega, (toNat_qwordAt b 20).symm⟩
    timestamp := ⟨28, 8, rfl, by omega, (toNat_qwordAt b 28).symm⟩ }

/-- **Reading a descriptor never fails** on as many bytes as one takes up. -/
theorem decode_eq (h : powerOnDescriptorLength ≤ b.length) : decode b = .ok (ofBytes b) := by
  obtain ⟨v, hv⟩ := Table.decode_isOk_iff.2 (show powerOnDescriptorTable.minLength ≤ b.length from h)
  simp only [powerOnDescriptorLength] at h
  have hactivation : v.uint .firmwareActivation = (b.byteAt 2).toNat :=
    (Table.uint_of_decode hv rfl rfl).trans (littleEndian_slice_one (by omega))
  have hoperation : v.uint .operationInProgress = (b.byteAt 3).toNat :=
    (Table.uint_of_decode hv rfl rfl).trans (littleEndian_slice_one (by omega))
  have hint (id : PowerOnDescriptorField) {i n : Nat}
      (hs : powerOnDescriptorTable.spec? id = some (.bytes i n .littleEndian)) :
      v.uint id = (b.slice i n).littleEndian :=
    Table.uint_of_decode hv hs rfl
  rw [decode, hv]
  refine congrArg Except.ok ?_
  rw [hint .controllerIdentifier rfl, hactivation, hoperation, hint .controllerPowerCycle rfl,
    hint .powerOnMilliseconds rfl, hint .controllerTimestamp rfl]
  simp only [UInt8.ofNat_toNat]
  rfl

end PowerOnDescriptor

/-- A descriptor as a controller stores it, its unused bytes included. -/
structure StoredDescriptor where
  descriptor : PowerOnDescriptor
  reserved : Bytes
  length_reserved : reserved.length = 12
  deriving DecidableEq, Repr

namespace StoredDescriptor

variable (s : StoredDescriptor)

/-- The bytes of the descriptor. -/
def pack : Bytes :=
  wordBytes s.descriptor.controllerId ++ ([s.descriptor.firmwareActivation, s.descriptor.operationInProgress]
    ++ (s.reserved ++ (dwordBytes s.descriptor.powerCycle
    ++ (qwordBytes s.descriptor.powerOnMilliseconds ++ qwordBytes s.descriptor.timestamp))))

theorem length_pack : s.pack.length = powerOnDescriptorLength := by
  simp only [pack, List.length_append, wordBytes, dwordBytes, qwordBytes, length_ofLittleEndian, List.length_cons,
    List.length_nil, s.length_reserved, powerOnDescriptorLength]

/-- A stored descriptor is read as it was stored. -/
theorem ofBytes_pack : PowerOnDescriptor.ofBytes s.pack = s.descriptor := by
  have hrest : s.pack.drop 16 = dwordBytes s.descriptor.powerCycle
      ++ (qwordBytes s.descriptor.powerOnMilliseconds ++ qwordBytes s.descriptor.timestamp) :=
    List.drop_left' s.length_reserved
  have hslice (i n : Nat) : s.pack.slice (16 + i) n = slice (s.pack.drop 16) i n := (slice_drop ..).symm
  have hcontroller : wordAt s.pack 0 = s.descriptor.controllerId := wordAt_of_slice rfl
  have hcycle : dwordAt s.pack 16 = s.descriptor.powerCycle :=
    dwordAt_of_slice ((hslice 0 4).trans (by rw [hrest]; rfl))
  have hmilliseconds : qwordAt s.pack 20 = s.descriptor.powerOnMilliseconds :=
    qwordAt_of_slice ((hslice 4 8).trans (by rw [hrest]; rfl))
  have htimestamp : qwordAt s.pack 28 = s.descriptor.timestamp :=
    qwordAt_of_slice ((hslice 12 8).trans (by rw [hrest]; rfl))
  rw [PowerOnDescriptor.ofBytes, hcontroller, hcycle, hmilliseconds, htimestamp]
  rfl

end StoredDescriptor

/-- The descriptors of a power-on event are read from their windows, and none of them fails. -/
theorem mapM_decode (b : Bytes) :
    (wholeWindows powerOnDescriptorLength b).mapM PowerOnDescriptor.decode
      = .ok ((wholeWindows powerOnDescriptorLength b).map PowerOnDescriptor.ofBytes) :=
  mapM_eq_ok fun _ hw => PowerOnDescriptor.decode_eq (Nat.le_of_eq (length_of_mem_wholeWindows hw).symm)

/-! ## Details -/

/-- The table of the data of an event, if the type is a known one. -/
def EventType.table? (type : EventType) : Option (Table String) :=
  if type = .firmwareCommit then some (Catalogue.byName firmwareCommitTable)
  else if type = .timestampChange then some (Catalogue.byName timestampChangeTable)
  else if type = .powerOnOrReset then some (Catalogue.byName powerOnTable)
  else if type = .changeNamespace then some (Catalogue.byName changeNamespaceTable)
  else if type = .sanitizeStart then some (Catalogue.byName sanitizeStartTable)
  else if type = .thermalExcursion then some (Catalogue.byName thermalExcursionTable)
  else none

namespace Details

/-- The type of the events that have such details. -/
def type? : Details → Option EventType
  | firmwareCommit .. => some .firmwareCommit
  | timestampChange .. => some .timestampChange
  | powerOnOrReset .. => some .powerOnOrReset
  | changeNamespace .. => some .changeNamespace
  | sanitizeStart .. => some .sanitizeStart
  | thermalExcursion .. => some .thermalExcursion
  | other => none

/-- Details say what the data of an event have. -/
def ReadFrom (data : Bytes) : Details → Prop
  | firmwareCommit oldRevision newRevision action slot status vendorStatus =>
    firmwareCommitTable.HasText data .oldFirmwareRevision oldRevision
      ∧ firmwareCommitTable.HasText data .newFirmwareRevision newRevision
      ∧ firmwareCommitTable.HasInteger data .commitAction action.toNat
      ∧ firmwareCommitTable.HasInteger data .firmwareSlot slot.toNat
      ∧ (∃ type code, firmwareCommitTable.HasInteger data .statusCodeType type
        ∧ firmwareCommitTable.HasInteger data .statusReturned code ∧ status.value.toNat = type * 256 + code)
      ∧ firmwareCommitTable.HasInteger data .vendorStatus vendorStatus.toNat
  | timestampChange previous sinceReset =>
    timestampChangeTable.HasInteger data .previousTimestamp previous.toNat
      ∧ timestampChangeTable.HasInteger data .millisecondsSinceReset sinceReset.toNat
  | powerOnOrReset firmwareRevision controllers =>
    powerOnTable.HasText data .firmwareRevision firmwareRevision
      ∧ controllers.length = (data.length - powerOnTable.minLength) / powerOnDescriptorLength
      ∧ ∀ i (h : i < controllers.length), controllers[i].ReadFrom
          (data.slice (powerOnTable.minLength + powerOnDescriptorLength * i) powerOnDescriptorLength)
  | changeNamespace nsid size capacity flbas dps nmic anaGroupId nvmSetId managementDword10 =>
    changeNamespaceTable.HasInteger data .nsid nsid.toNat
      ∧ changeNamespaceTable.HasInteger data .nsze size.toNat
      ∧ changeNamespaceTable.HasInteger data .ncap capacity.toNat
      ∧ changeNamespaceTable.HasInteger data .flbas flbas.toNat
      ∧ changeNamespaceTable.HasInteger data .dps dps.toNat
      ∧ changeNamespaceTable.HasInteger data .nmic nmic.toNat
      ∧ changeNamespaceTable.HasInteger data .anaGroupId anaGroupId.toNat
      ∧ changeNamespaceTable.HasInteger data .nvmSetId nvmSetId.toNat
      ∧ changeNamespaceTable.HasInteger data .namespaceManagementCdw10 managementDword10.toNat
  | sanitizeStart capabilities dword10 dword11 =>
    sanitizeStartTable.HasInteger data .sanicap capabilities.toNat
      ∧ sanitizeStartTable.HasInteger data .sanitizeCdw10 dword10.toNat
      ∧ sanitizeStartTable.HasInteger data .sanitizeCdw11 dword11.toNat
  | thermalExcursion overTemperature threshold =>
    thermalExcursionTable.HasInteger data .overTemperature overTemperature.toNat
      ∧ thermalExcursionTable.HasInteger data .threshold threshold.toNat
  | other => True

end Details

/-- How reading the data of an event ends, by the table of its type. -/
inductive DataOutcome (type : EventType) (data : Bytes) : Option (Table String) → Except Layout.Error Details → Prop
  /-- The type is unknown. -/
  | other : DataOutcome type data none (.ok .other)
  /-- The data have all fields. -/
  | read {t : Table String} {d : Details} : t.minLength ≤ data.length → d.type? = some type → d.ReadFrom data →
    DataOutcome type data (some t) (.ok d)
  /-- The data end before a field does. -/
  | lacks {t : Table String} {err : Layout.Error} :
      t.Lacks data.length err → DataOutcome type data (some t) (.error err)

variable {type : EventType} {data : Bytes}

/-- Details that are made of what a table reads. -/
theorem outcome_of_decode {ι : Type} [Named ι] [DecidableEq ι] {t : Table ι}
    {k : Values ι → Except Layout.Error Details}
    (h : ∀ v, t.decode data = .ok v → ∃ d, k v = .ok d ∧ d.type? = some type ∧ d.ReadFrom data) :
    DataOutcome type data (some (Catalogue.byName t)) (t.decode data >>= k) := by
  cases hv : t.decode data with
  | error err => exact .lacks (Table.decode_eq_error_iff.1 hv).byName
  | ok v =>
    obtain ⟨d, hd, htype, hread⟩ := h v hv
    have hlength : (Catalogue.byName t).minLength ≤ data.length := by
      rw [Table.minLength_byName]
      exact Table.decode_isOk_iff.1 ⟨v, hv⟩
    change DataOutcome type data _ (k v)
    rw [hd]
    exact .read hlength htype hread

/-- A status has its type above its code. -/
theorem toNat_status {v : Values FirmwareCommitField} (h : firmwareCommitTable.decode data = .ok v) :
    (UInt16.ofNat (256 * v.uint .statusCodeType + v.uint .statusReturned)).toNat
      = v.uint .statusCodeType * 256 + v.uint .statusReturned := by
  have htype : v.uint .statusCodeType < 2 ^ (8 * 1) := Table.uint_lt h rfl
  have hcode : v.uint .statusReturned < 2 ^ (8 * 1) := Table.uint_lt h rfl
  rw [UInt16.toNat_ofNat', Nat.mod_eq_of_lt (by omega), Nat.mul_comm]

theorem readFrom_powerOn {v : Values PowerOnField} (h : powerOnTable.decode data = .ok v) :
    (Details.powerOnOrReset (v.text .firmwareRevision)
      ((wholeWindows powerOnDescriptorLength (data.drop powerOnTable.minLength)).map
        PowerOnDescriptor.ofBytes)).ReadFrom data := by
  refine ⟨Table.hasText h rfl, ?_, fun i hi => ?_⟩
  · rw [List.length_map, length_wholeWindows, List.length_drop]
  · rw [List.length_map] at hi
    have hmem := List.getElem_mem hi
    rw [List.getElem_map, ← slice_drop, ← getElem_wholeWindows hi]
    exact PowerOnDescriptor.readFrom_ofBytes (Nat.le_of_eq (length_of_mem_wholeWindows hmem).symm)

/-- **How reading event data ends.** -/
theorem outcome_details (e : Event) : DataOutcome e.type e.data e.type.table? e.details := by
  rw [Event.details, EventType.table?]
  by_cases hfirmware : e.type = .firmwareCommit
  · rw [if_pos hfirmware, if_pos hfirmware]
    exact outcome_of_decode fun v h => ⟨_, rfl, hfirmware ▸ rfl, Table.hasText h rfl, Table.hasText h rfl,
      Table.hasByte h rfl, Table.hasByte h rfl,
      ⟨_, _, Table.hasInteger h rfl, Table.hasInteger h rfl, toNat_status h⟩, Table.hasWord h rfl⟩
  rw [if_neg hfirmware, if_neg hfirmware]
  by_cases hclock : e.type = .timestampChange
  · rw [if_pos hclock, if_pos hclock]
    exact outcome_of_decode fun v h => ⟨_, rfl, hclock ▸ rfl, Table.hasQword h rfl, Table.hasQword h rfl⟩
  rw [if_neg hclock, if_neg hclock]
  by_cases hpower : e.type = .powerOnOrReset
  · rw [if_pos hpower, if_pos hpower]
    refine outcome_of_decode fun v h => ⟨_, ?_, hpower ▸ rfl, readFrom_powerOn h⟩
    dsimp only
    rw [mapM_decode]
    rfl
  rw [if_neg hpower, if_neg hpower]
  by_cases hnamespace : e.type = .changeNamespace
  · rw [if_pos hnamespace, if_pos hnamespace]
    exact outcome_of_decode fun v h => ⟨_, rfl, hnamespace ▸ rfl, Table.hasDword h rfl, Table.hasQword h rfl,
      Table.hasQword h rfl, Table.hasByte h rfl, Table.hasByte h rfl, Table.hasByte h rfl, Table.hasDword h rfl,
      Table.hasWord h rfl, Table.hasDword h rfl⟩
  rw [if_neg hnamespace, if_neg hnamespace]
  by_cases hsanitize : e.type = .sanitizeStart
  · rw [if_pos hsanitize, if_pos hsanitize]
    exact outcome_of_decode fun v h => ⟨_, rfl, hsanitize ▸ rfl, Table.hasDword h rfl, Table.hasDword h rfl,
      Table.hasDword h rfl⟩
  rw [if_neg hsanitize, if_neg hsanitize]
  by_cases hthermal : e.type = .thermalExcursion
  · rw [if_pos hthermal, if_pos hthermal]
    exact outcome_of_decode fun v h => ⟨_, rfl, hthermal ▸ rfl, Table.hasByte h rfl, Table.hasByte h rfl⟩
  rw [if_neg hthermal, if_neg hthermal]
  exact .other

/-- **Stored descriptors are given back**, in order, whatever bytes follow that are too few for another one. -/
theorem details_packed {e : Event} {revision stray : Bytes} {ds : List StoredDescriptor}
    (htype : e.type = .powerOnOrReset) (hrevision : revision.length = powerOnTable.minLength)
    (hstray : stray.length < powerOnDescriptorLength)
    (hdata : e.data = revision ++ (ds.flatMap StoredDescriptor.pack ++ stray)) :
    e.details = .ok (.powerOnOrReset (Padded.ofBytes revision) (ds.map StoredDescriptor.descriptor)) := by
  have hlength : powerOnTable.minLength ≤ e.data.length := by
    rw [hdata, List.length_append, hrevision]
    exact Nat.le_add_right ..
  obtain ⟨v, hv⟩ := Table.decode_isOk_iff.2 hlength
  have htext : v.text .firmwareRevision = Padded.ofBytes revision := by
    have hslice : e.data.slice 0 powerOnTable.minLength = revision := by
      rw [hdata]
      exact List.take_left' hrevision
    rw [← hslice]
    exact Table.text_of_decode hv rfl rfl
  have hdescriptors : (wholeWindows powerOnDescriptorLength (e.data.drop powerOnTable.minLength)).map
      PowerOnDescriptor.ofBytes = ds.map StoredDescriptor.descriptor := by
    have hpacked : ∀ w ∈ ds.map StoredDescriptor.pack, w.length = powerOnDescriptorLength :=
      List.forall_mem_map.2 fun s _ => s.length_pack
    rw [hdata, List.drop_left' hrevision, List.flatMap_def, wholeWindows_flatten (by decide) hpacked hstray,
      List.map_map]
    exact List.map_congr_left fun s _ => s.ofBytes_pack
  rw [Event.details, if_neg (by rw [htype]; decide), if_neg (by rw [htype]; decide), if_pos htype,
    Stepwise.bind_ok _ hv]
  dsimp only
  rw [Stepwise.bind_ok _ (mapM_decode _), htext, hdescriptors]
  rfl

/-! ## Step by step -/

namespace Stepwise

/-- Reads a descriptor of a power-on event. -/
def descriptor (b : Bytes) : Work Layout.Error PowerOnDescriptor := do
  let v ← decode powerOnDescriptorTable id b
  return {
    controllerId := UInt16.ofNat (v.uint .controllerIdentifier)
    firmwareActivation := UInt8.ofNat (v.uint .firmwareActivation)
    operationInProgress := UInt8.ofNat (v.uint .operationInProgress)
    powerCycle := UInt32.ofNat (v.uint .controllerPowerCycle)
    powerOnMilliseconds := UInt64.ofNat (v.uint .powerOnMilliseconds)
    timestamp := UInt64.ofNat (v.uint .controllerTimestamp) }

/-- Reads the descriptors behind the firmware revision, one after the other. -/
def descriptors (data : Bytes) : Work Layout.Error (List PowerOnDescriptor) := do
  let rest ← range data powerOnTable.minLength data.length
  (List.range (rest.length / powerOnDescriptorLength)).mapM fun i => do
    descriptor (← range rest (powerOnDescriptorLength * i) (powerOnDescriptorLength * i + powerOnDescriptorLength))

/-- Reads the data of an event. -/
def details (e : Event) : Work Layout.Error Details :=
  if e.type = .firmwareCommit then do
    let v ← decode firmwareCommitTable id e.data
    return .firmwareCommit (v.text .oldFirmwareRevision) (v.text .newFirmwareRevision)
      (UInt8.ofNat (v.uint .commitAction)) (UInt8.ofNat (v.uint .firmwareSlot))
      ⟨UInt16.ofNat ((v.uint .statusCodeType <<< 8) % 2 ^ 64 ||| v.uint .statusReturned)⟩
      (UInt16.ofNat (v.uint .vendorStatus))
  else if e.type = .timestampChange then do
    let v ← decode timestampChangeTable id e.data
    return .timestampChange (UInt64.ofNat (v.uint .previousTimestamp)) (UInt64.ofNat (v.uint .millisecondsSinceReset))
  else if e.type = .powerOnOrReset then do
    let v ← decode powerOnTable id e.data
    return .powerOnOrReset (v.text .firmwareRevision) (← descriptors e.data)
  else if e.type = .changeNamespace then do
    let v ← decode changeNamespaceTable id e.data
    return .changeNamespace (UInt32.ofNat (v.uint .nsid)) (UInt64.ofNat (v.uint .nsze)) (UInt64.ofNat (v.uint .ncap))
      (UInt8.ofNat (v.uint .flbas)) (UInt8.ofNat (v.uint .dps)) (UInt8.ofNat (v.uint .nmic))
      (UInt32.ofNat (v.uint .anaGroupId)) (UInt16.ofNat (v.uint .nvmSetId))
      (UInt32.ofNat (v.uint .namespaceManagementCdw10))
  else if e.type = .sanitizeStart then do
    let v ← decode sanitizeStartTable id e.data
    return .sanitizeStart (UInt32.ofNat (v.uint .sanicap)) (UInt32.ofNat (v.uint .sanitizeCdw10))
      (UInt32.ofNat (v.uint .sanitizeCdw11))
  else if e.type = .thermalExcursion then do
    let v ← decode thermalExcursionTable id e.data
    return .thermalExcursion (UInt8.ofNat (v.uint .overTemperature)) (UInt8.ofNat (v.uint .threshold))
  else
    return .other

theorem descriptor_eq {b : Bytes} (h : powerOnDescriptorLength ≤ b.length) :
    descriptor b = .ok (PowerOnDescriptor.ofBytes b) := by
  have hdecode := PowerOnDescriptor.decode_eq h
  rw [descriptor, decode_eq (by decide)]
  rw [PowerOnDescriptor.decode] at hdecode
  cases hv : powerOnDescriptorTable.decode b with
  | error err =>
    rw [hv] at hdecode
    cases hdecode
  | ok v =>
    rw [hv] at hdecode
    exact congrArg Except.ok (Except.ok.inj hdecode)

/-- Every window lies inside the data, so the descriptors are read without a halt. -/
theorem descriptors_eq (h : powerOnTable.minLength ≤ data.length) :
    descriptors data = .ok ((wholeWindows powerOnDescriptorLength (data.drop powerOnTable.minLength)).map
      PowerOnDescriptor.ofBytes) := by
  have hwindow : ∀ i ∈ List.range ((data.drop powerOnTable.minLength).length / powerOnDescriptorLength),
      (do descriptor (← range (data.drop powerOnTable.minLength) (powerOnDescriptorLength * i)
        (powerOnDescriptorLength * i + powerOnDescriptorLength)))
        = (.ok (PowerOnDescriptor.ofBytes (slice (data.drop powerOnTable.minLength) (powerOnDescriptorLength * i)
            powerOnDescriptorLength)) : Work Layout.Error PowerOnDescriptor) := by
    intro i hi
    have hle := window_le (List.mem_range.1 hi)
    rw [bind_ok _ (range_eq (Nat.le_add_right ..) hle), Nat.add_sub_cancel_left,
      descriptor_eq (Nat.le_of_eq (length_slice hle).symm)]
  rw [descriptors, bind_ok _ (range_end h), mapM_eq_ok hwindow, wholeWindows, List.map_map]
  rfl

/-- Details that are made of what a table reads. -/
theorem decode_bind {ι : Type} [Named ι] {t : Table ι} (ht : ∀ f ∈ t.fields, f.2.WellFormed ∧ InPlace.MachineSized f.2)
    {f : Values ι → Work Layout.Error Details} {g : Values ι → Except Layout.Error Details}
    (h : ∀ v, t.decode data = .ok v → f v = (g v).mapError .refused) :
    (decode t id data >>= f) = (t.decode data >>= g).mapError .refused := by
  rw [decode_eq ht]
  cases hv : t.decode data with
  | error err => rfl
  | ok v => exact h v hv

/-- **Reading event data** halts only where the data end before a field does, and reports that. -/
theorem details_eq (e : Event) : details e = e.details.mapError .refused := by
  rw [details, Event.details]
  by_cases hfirmware : e.type = .firmwareCommit
  · rw [if_pos hfirmware, if_pos hfirmware]
    refine decode_bind (by decide) fun v h => ?_
    have hcode : v.uint .statusReturned < 2 ^ (8 * 1) := Table.uint_lt h rfl
    have htype : v.uint .statusCodeType < 2 ^ (8 * 1) := Table.uint_lt h rfl
    rw [Nat.mod_eq_of_lt (by rw [Nat.shiftLeft_eq]; omega), ← Nat.shiftLeft_add_eq_or_of_lt hcode, Nat.shiftLeft_eq,
      Nat.mul_comm]
    rfl
  rw [if_neg hfirmware, if_neg hfirmware]
  by_cases hclock : e.type = .timestampChange
  · rw [if_pos hclock, if_pos hclock]
    exact decode_bind (by decide) fun _ _ => rfl
  rw [if_neg hclock, if_neg hclock]
  by_cases hpower : e.type = .powerOnOrReset
  · rw [if_pos hpower, if_pos hpower]
    refine decode_bind (by decide) fun v h => ?_
    have hlength := Table.decode_isOk_iff.1 ⟨v, h⟩
    dsimp only
    rw [bind_ok _ (descriptors_eq hlength), bind_ok _ (mapM_decode _)]
    rfl
  rw [if_neg hpower, if_neg hpower]
  by_cases hnamespace : e.type = .changeNamespace
  · rw [if_pos hnamespace, if_pos hnamespace]
    exact decode_bind (by decide) fun _ _ => rfl
  rw [if_neg hnamespace, if_neg hnamespace]
  by_cases hsanitize : e.type = .sanitizeStart
  · rw [if_pos hsanitize, if_pos hsanitize]
    exact decode_bind (by decide) fun _ _ => rfl
  rw [if_neg hsanitize, if_neg hsanitize]
  by_cases hthermal : e.type = .thermalExcursion
  · rw [if_pos hthermal, if_pos hthermal]
    exact decode_bind (by decide) fun _ _ => rfl
  rw [if_neg hthermal, if_neg hthermal]
  rfl

end Stepwise

/-! ## What event data say -/

/-- **Why event data are not read**: the type is a known one, and the data end before a field of its table does. -/
theorem details_eq_error_iff {e : Event} {err : Layout.Error} :
    e.details = .error err ↔ ∃ t, e.type.table? = some t ∧ t.Lacks e.data.length err := by
  have houtcome := outcome_details e
  generalize e.details = result at houtcome ⊢
  generalize e.type.table? = table at houtcome ⊢
  cases houtcome with
  | other => exact ⟨nofun, nofun⟩
  | @read t d hlength _ _ =>
    refine ⟨nofun, ?_⟩
    rintro ⟨_, ⟨⟩, hlacks⟩
    exact absurd hlacks.lt (Nat.not_lt.2 hlength)
  | @lacks t err' hlacks =>
    constructor
    · rintro ⟨⟩
      exact ⟨t, rfl, hlacks⟩
    · rintro ⟨_, ⟨⟩, hlacks'⟩
      rw [← Table.decode_eq_error_iff] at hlacks hlacks'
      cases hlacks.symm.trans hlacks'
      rfl

theorem of_details_eq_ok {e : Event} {d : Details} (h : e.details = .ok d) :
    d.type? = (e.type.table?.map fun _ => e.type) ∧ d.ReadFrom e.data := by
  have houtcome := outcome_details e
  rw [h] at houtcome
  generalize e.type.table? = table at houtcome ⊢
  cases houtcome with
  | other => exact ⟨rfl, trivial⟩
  | read _ htype hread => exact ⟨htype, hread⟩

/-- **What the data of an event say.** Reading them fails exactly if the type is a known one and the data are shorter
than its table, with the first field that they do not have. Otherwise it gives details of this type, and those say what
the data have: each integer is the little-endian one in the place of its field, none of its bits lost, and there is a
descriptor for each whole 36 bytes behind the firmware revision. So packed descriptors are given back, in order,
whatever few bytes follow them. Done step by step, reading ends in the same way: every range lies inside the data, and
there is no other halt. -/
theorem details_exact (e : Event) :
    (∀ err, e.details = .error err ↔ ∃ t, e.type.table? = some t ∧ t.Lacks e.data.length err)
      ∧ ((∃ err, e.details = .error err) ↔ ∃ t, e.type.table? = some t ∧ e.data.length < t.minLength)
      ∧ (∀ d, e.details = .ok d → d.type? = (e.type.table?.map fun _ => e.type) ∧ d.ReadFrom e.data)
      ∧ (∀ (revision stray : Bytes) (ds : List StoredDescriptor), e.type = .powerOnOrReset →
          revision.length = powerOnTable.minLength → stray.length < powerOnDescriptorLength →
          e.data = revision ++ (ds.flatMap StoredDescriptor.pack ++ stray) →
          e.details = .ok (.powerOnOrReset (Padded.ofBytes revision) (ds.map StoredDescriptor.descriptor)))
      ∧ Stepwise.details e = e.details.mapError .refused := by
  refine ⟨fun err => details_eq_error_iff, ?_, fun d => of_details_eq_ok, fun _ _ _ => details_packed,
    Stepwise.details_eq e⟩
  constructor
  · rintro ⟨err, h⟩
    obtain ⟨t, ht, hlacks⟩ := details_eq_error_iff.1 h
    exact ⟨t, ht, hlacks.lt⟩
  · rintro ⟨t, ht, hlt⟩
    obtain ⟨err, hlacks⟩ := Table.exists_lacks hlt
    exact ⟨err, details_eq_error_iff.2 ⟨t, ht, hlacks⟩⟩

/-- A controller that was reset an hour after it was powered on. -/
def resetController : StoredDescriptor where
  descriptor :=
    { controllerId := 1
      firmwareActivation := 0
      operationInProgress := 1
      powerCycle := 0x10002
      powerOnMilliseconds := 3600000
      timestamp := 0xffffffffffff }
  reserved := zeros 12
  length_reserved := rfl

/-- The data of two controllers, and three bytes that are left. -/
def twoControllers : Event :=
  { bareEvent.placedAt 512 with
    data := [0x31, 0x2e, 0x30, 0x20, 0x20, 0x20, 0x20, 0x20]
      ++ ([resetController, resetController].flatMap StoredDescriptor.pack ++ [1, 2, 3]) }

/-- Two controllers are found, and without a whole firmware revision none. -/
theorem details_exact_twoControllers :
    (let e := { twoControllers with data := twoControllers.data.take 7 }
    twoControllers.details = .ok (.powerOnOrReset "1.0" [resetController.descriptor, resetController.descriptor])
      ∧ Stepwise.details twoControllers
        = .ok (.powerOnOrReset "1.0" [resetController.descriptor, resetController.descriptor])
      ∧ e.details = .error (.bufferTooSmall "FirmwareRevision" 8 7)) := by
  intro e
  obtain ⟨-, -, -, hpacked, hrun⟩ := details_exact twoControllers
  have hdetails := hpacked [0x31, 0x2e, 0x30, 0x20, 0x20, 0x20, 0x20, 0x20] [1, 2, 3] [resetController, resetController]
    rfl rfl (by decide) rfl
  have htext : Padded.ofBytes [0x31, 0x2e, 0x30, 0x20, 0x20, 0x20, 0x20, 0x20] = "1.0" := by decide +kernel
  rw [htext] at hdetails
  rw [hdetails] at hrun
  refine ⟨hdetails, hrun, ((details_exact e).1 _).2 ⟨_, rfl, [], _, [], rfl, nofun, by decide +kernel, rfl⟩⟩

end EventLog

end StorageCommands
