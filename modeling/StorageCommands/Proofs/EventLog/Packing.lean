import StorageCommands.EventLog.Event
import StorageCommands.Proofs.Layout.Tables

/-!
# Packed events

A `StoredEvent` is what one event of a log holds, the bytes that the walk passes over included, and `pack` is how it is
stored: a header of 24 bytes, which may be extended, then vendor information, then event data, without gaps. Three
lengths in the header have to agree with what follows it, and the type of stored events admits no others.

- `eventTable_decode`: the table reads a stored header field by field.
- `readEvent_pack`: at a packed event, whatever follows it, the walk reads that event.
- `walkFrom_packed`: so a walk comes over packed events one by one, each where the one before it ends.
- `walk_recovers_events`: a log of packed events, whatever is before and after them, gives back those events.
-/

namespace StorageCommands.EventLog

open Layout

/-! ## Events as they are stored -/

/-- An event as a controller stores it. -/
structure StoredEvent where
  type : EventType
  revision : UInt8
  additionalInfo : UInt8
  controllerId : UInt16
  /-- In milliseconds, 48 bits. -/
  timestamp : UInt64
  /-- The 16 bits above the timestamp. -/
  timestampAttributes : UInt16
  portId : UInt16
  reserved : UInt32
  /-- The bytes of the header after the first 24. -/
  extension : Bytes
  vendorInfo : Bytes
  data : Bytes
  timestamp_lt : timestamp.toNat < 2 ^ 48
  extension_le : extension.length ≤ 234
  payload_lt : vendorInfo.length + data.length < 2 ^ 16
  deriving DecidableEq, Repr

namespace StoredEvent

variable (e : StoredEvent)

/-- The length of the header less three. -/
def storedLength : Nat := eventHeaderLength - fixedHeaderLength + e.extension.length

/-- The first 24 bytes of the event. -/
def header : Bytes :=
  [e.type, e.revision, UInt8.ofNat e.storedLength, e.additionalInfo]
    ++ (ByteOrder.little.write 2 e.controllerId.toNat
    ++ (ByteOrder.little.write 6 e.timestamp.toNat
    ++ (ByteOrder.little.write 2 e.timestampAttributes.toNat
    ++ (ByteOrder.little.write 2 e.portId.toNat
    ++ (ByteOrder.little.write 4 e.reserved.toNat
    ++ (ByteOrder.little.write 2 e.vendorInfo.length
    ++ ByteOrder.little.write 2 (e.vendorInfo.length + e.data.length)))))))

/-- Vendor information and event data. -/
def payload : Bytes := e.vendorInfo ++ e.data

/-- The bytes of the event. -/
def pack : Bytes := e.header ++ (e.extension ++ e.payload)

/-- The event as the walk gives it, stored at an offset of the log. -/
def placedAt (offset : Nat) : Event where
  offset
  type := e.type
  revision := e.revision
  headerLength := UInt8.ofNat e.storedLength
  additionalInfo := e.additionalInfo
  controllerId := e.controllerId
  timestamp := e.timestamp
  portId := e.portId
  vendorInfo := e.vendorInfo
  data := e.data

/-- Events stored from an offset on, without gaps. -/
def place : Nat → List StoredEvent → List Event
  | _, [] => []
  | offset, e :: es => e.placedAt offset :: place (offset + e.pack.length) es

/-! ## Lengths -/

theorem storedLength_lt : e.storedLength < 2 ^ 8 := by
  have := e.extension_le
  simp only [storedLength, eventHeaderLength, fixedHeaderLength]
  omega

theorem toNat_storedLength : (UInt8.ofNat e.storedLength).toNat = e.storedLength := by
  rw [UInt8.toNat_ofNat', Nat.mod_eq_of_lt e.storedLength_lt]

@[simp] theorem length_header : e.header.length = eventHeaderLength := rfl

@[simp] theorem length_payload : e.payload.length = e.vendorInfo.length + e.data.length := List.length_append

/-- The header with its extension is three bytes longer than it says. -/
theorem length_header_extension : (e.header ++ e.extension).length = e.storedLength + fixedHeaderLength := by
  rw [List.length_append, length_header, storedLength, eventHeaderLength, fixedHeaderLength]
  omega

theorem pack_eq : e.pack = (e.header ++ e.extension) ++ e.payload := (List.append_assoc ..).symm

theorem length_pack : e.pack.length = e.storedLength + fixedHeaderLength + (e.vendorInfo.length + e.data.length) := by
  rw [pack_eq, List.length_append, length_header_extension, length_payload]

/-- An event is as long as its header says. -/
theorem size_placedAt (offset : Nat) : (e.placedAt offset).size = e.pack.length := by
  rw [length_pack, Event.size, placedAt, toNat_storedLength]

/-! ## Reading the header -/

/-- The integers that the table finds in a stored header. -/
def values : Values EventField :=
  ⟨[(.eventType, .uint e.type.toNat),
    (.eventTypeRevision, .uint e.revision.toNat),
    (.ehl, .uint e.storedLength),
    (.additionalInfo, .uint e.additionalInfo.toNat),
    (.controllerIdentifier, .uint e.controllerId.toNat),
    (.eventTimestamp, .uint e.timestamp.toNat),
    (.portIdentifier, .uint e.portId.toNat),
    (.vsil, .uint e.vendorInfo.length),
    (.el, .uint (e.vendorInfo.length + e.data.length))]⟩

/-- **The table reads a stored header** field by field. -/
theorem eventTable_decode : eventTable.decode e.header = .ok e.values := by
  have hint {n v : Nat} (h : v < 2 ^ (8 * n)) : Bytes.littleEndian (ByteOrder.little.write n v) = v :=
    (ByteOrder.read_write .little n v).trans (Nat.mod_eq_of_lt h)
  have hehl : (e.header.slice 2 1).littleEndian = e.storedLength := e.toNat_storedLength
  have hcid : (e.header.slice 4 2).littleEndian = e.controllerId.toNat :=
    hint (n := 2) e.controllerId.toNat_lt
  have htimestamp : e.header.readBits 48 48 = e.timestamp.toNat :=
    (Bytes.readBits_eq_littleEndian e.header 6 6).trans (hint (n := 6) e.timestamp_lt)
  have hport : (e.header.slice 14 2).littleEndian = e.portId.toNat := hint (n := 2) e.portId.toNat_lt
  have hvsil : (e.header.slice 20 2).littleEndian = e.vendorInfo.length :=
    hint (n := 2) (Nat.lt_of_le_of_lt (Nat.le_add_right ..) e.payload_lt)
  have hel : (e.header.slice 22 2).littleEndian = e.vendorInfo.length + e.data.length :=
    hint (n := 2) e.payload_lt
  have hlength : eventTable.minLength ≤ e.header.length := Nat.le_refl eventHeaderLength
  rw [Table.decode_eq_ok hlength]
  simp only [values, eventTable, List.map_cons, List.map_nil, Spec.read, ByteOrder.read, hcid, htimestamp, hport,
    hvsil, hel, hehl]
  rfl

end StoredEvent

/-! ## Walking over packed events -/

open StoredEvent

/-- **At a packed event** the walk reads that event, whatever follows it. -/
theorem readEvent_pack (e : StoredEvent) (index offset : Nat) {available : Nat} (rest : Bytes)
    (h : e.pack.length ≤ available) : readEvent index offset available (e.pack ++ rest) = .ok (e.placedAt offset) := by
  have hlength := e.length_pack
  have hheader : (e.pack ++ rest).take eventHeaderLength = e.header := by
    rw [pack, List.append_assoc]
    exact List.take_left' e.length_header
  have hbody : (e.pack ++ rest).slice (e.storedLength + fixedHeaderLength) (e.vendorInfo.length + e.data.length)
      = e.payload := by
    rw [Bytes.slice, pack_eq, List.append_assoc, List.drop_left' e.length_header_extension]
    exact List.take_left' e.length_payload
  have hshort : ¬available < eventHeaderLength := by
    simp only [storedLength, eventHeaderLength, fixedHeaderLength] at hlength ⊢
    omega
  have hfits : ¬available < e.storedLength + fixedHeaderLength + (e.vendorInfo.length + e.data.length) := by omega
  rw [readEvent, hheader, if_neg hshort, e.eventTable_decode]
  change (if available < e.storedLength + fixedHeaderLength + (e.vendorInfo.length + e.data.length) then _ else _) = _
  rw [if_neg hfits]
  refine congrArg Except.ok ?_
  rw [placedAt, Event.mk.injEq]
  exact ⟨rfl, UInt8.ofNat_toNat, UInt8.ofNat_toNat, rfl, UInt8.ofNat_toNat, UInt16.ofNat_toNat, UInt64.ofNat_toNat,
    UInt16.ofNat_toNat, (congrArg (List.take _) hbody).trans (List.take_left' rfl),
    (congrArg (List.drop _) hbody).trans (List.drop_left' rfl)⟩

/-- **A walk over packed events** comes over them one by one, each where the one before it ends. -/
theorem walkFrom_packed (es : List StoredEvent) (rest : Bytes) {len index offset : Nat}
    (h : len = offset + (es.flatMap pack ++ rest).length) :
    walkFrom len es.length index offset (es.flatMap pack ++ rest) = ⟨place offset es, none⟩ := by
  induction es generalizing index offset with
  | nil => rfl
  | cons e es ih =>
    rw [List.flatMap_cons, List.append_assoc, List.length_append] at h
    have hread := readEvent_pack e index offset (es.flatMap pack ++ rest)
      (by omega : e.pack.length ≤ len - offset)
    rw [List.flatMap_cons, List.append_assoc, List.length_cons, walkFrom, hread]
    simp only [size_placedAt, List.drop_left, place]
    rw [ih (by omega)]

/-- **A log of packed events gives back those events**, in order and with their offsets, whatever the log's header
holds and whatever follows the events. -/
theorem walk_recovers_events (header : Bytes) (es : List StoredEvent) (rest : Bytes)
    (h : header.length = headerLength) :
    events (header ++ (es.flatMap pack ++ rest)) es.length = .ok (place headerLength es) := by
  rw [events, walk, List.drop_left' h, walkFrom_packed es rest (by rw [List.length_append, h])]
  rfl

/-- An event with an extended header, vendor information, and attributes above its timestamp. -/
def extendedEvent : StoredEvent where
  type := .thermalExcursion
  revision := 1
  additionalInfo := 2
  controllerId := 3
  timestamp := 0xffffffffffff
  timestampAttributes := 0xabcd
  portId := 4
  reserved := 0xffffffff
  extension := [0xee, 0xee]
  vendorInfo := [5, 6, 7]
  data := [8, 9]
  timestamp_lt := by decide
  extension_le := by decide
  payload_lt := by decide

/-- The smallest event. -/
def bareEvent : StoredEvent where
  type := .powerOnOrReset
  revision := 3
  additionalInfo := 0
  controllerId := 0xffff
  timestamp := 1
  timestampAttributes := 0
  portId := 0
  reserved := 0
  extension := []
  vendorInfo := []
  data := []
  timestamp_lt := by decide
  extension_le := by decide
  payload_lt := by decide

theorem walk_recovers_two_events :
    (Bytes.zeros 512).length = headerLength
      ∧ events (Bytes.zeros 512 ++ ([extendedEvent, bareEvent].flatMap pack ++ [0xff, 0xff])) 2
        = .ok [extendedEvent.placedAt 512, bareEvent.placedAt 543] :=
  ⟨Bytes.length_zeros 512,
    walk_recovers_events (Bytes.zeros 512) [extendedEvent, bareEvent] [0xff, 0xff] (Bytes.length_zeros 512)⟩

end StorageCommands.EventLog
