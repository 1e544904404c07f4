import StorageCommands.Proofs.EventLog.Packing
import StorageCommands.Proofs.Layout.Decoding
import StorageCommands.Proofs.Nvme.Registers

/-!
# Walking over any log

Where the events of a log lie follows from the log alone: the first one is after the header, and each one is as long as
its own header says (`eventOffset`). What the bytes at such a place say, taken as an event, is `eventAt`, and
`HasEventAt` says whether the log has that many bytes.

- `readEvent_eq`: the walk reads the event that the bytes say, or fails for the number of bytes that it needs.
- `walkOn_eq`, `walkOn_eq_of_lacks`: a walk comes over the events of these places, up to the first one that the log
  does not have in full; `events_eq_ok_iff` and `events_eq_error_iff` say the same of its two outcomes.
- `walk_monotone`: so the events that a walk has come over do not depend on how many more were asked for, on what
  follows them, or on the header of the log.
-/

namespace StorageCommands.EventLog

open Layout Bytes Nvme

/-! ## What the bytes of a log say -/

section

variable (log : Bytes)

/-- The length of an event's header, as the event gives it. -/
def headerLengthAt (offset : Nat) : Nat := (log.byteAt (offset + 2)).toNat + fixedHeaderLength

/-- The length of vendor information, as the event gives it. -/
def vendorLengthAt (offset : Nat) : Nat := (log.slice (offset + 20) 2).littleEndian

/-- The length of vendor information and event data, as the event gives it. -/
def payloadLengthAt (offset : Nat) : Nat := (log.slice (offset + 22) 2).littleEndian

def sizeAt (offset : Nat) : Nat := headerLengthAt log offset + payloadLengthAt log offset

/-- Vendor information and event data. -/
def payloadAt (offset : Nat) : Bytes := log.slice (offset + headerLengthAt log offset) (payloadLengthAt log offset)

/-- The event that the bytes from an offset on say. -/
def eventAt (offset : Nat) : Event where
  offset
  type := log.byteAt offset
  revision := log.byteAt (offset + 1)
  headerLength := log.byteAt (offset + 2)
  additionalInfo := log.byteAt (offset + 3)
  controllerId := wordAt log (offset + 4)
  timestamp := UInt64.ofNat (log.slice (offset + 6) 6).littleEndian
  portId := wordAt log (offset + 14)
  vendorInfo := (payloadAt log offset).take (vendorLengthAt log offset)
  data := (payloadAt log offset).drop (vendorLengthAt log offset)

/-- How many bytes an event needs: those of a header, and if the log has these, as many as the header says. -/
def neededAt (offset : Nat) : Nat :=
  if log.length - offset < eventHeaderLength then eventHeaderLength else sizeAt log offset

/-- The log has all bytes of the event at an offset. -/
def HasEventAt (offset : Nat) : Prop := neededAt log offset ≤ log.length - offset

/-- Where an event of a log begins: after the header of the log and the events before it. -/
def eventOffset : Nat → Nat
  | 0 => headerLength
  | i + 1 => eventOffset i + sizeAt log (eventOffset i)

/-- The events of a log with some indices. -/
def eventsAt (indices : List Nat) : List Event := indices.map fun i => eventAt log (eventOffset log i)

/-- What a walk reports of an event that the log does not have in full. -/
def truncation (i : Nat) : Error :=
  .truncatedLog i (eventOffset log i) (neededAt log (eventOffset log i)) (log.length - eventOffset log i)

end

variable {log log' : Bytes} {offset : Nat}

instance : DecidablePred (HasEventAt log) := fun _ => Nat.decLe ..

/-- The log has the 24 bytes of the header, and as many as the header says. -/
theorem hasEventAt_iff :
    HasEventAt log offset ↔ offset + eventHeaderLength ≤ log.length ∧ offset + sizeAt log offset ≤ log.length := by
  have hpos : 0 < eventHeaderLength := by decide
  rw [HasEventAt, neededAt]
  by_cases h : log.length - offset < eventHeaderLength
  · rw [if_pos h]
    omega
  · rw [if_neg h]
    omega

/-- Where the bytes of a header are missing, these are needed. -/
theorem lacks_header (h : log.length - offset < eventHeaderLength) :
    ¬HasEventAt log offset ∧ neededAt log offset = eventHeaderLength := by
  have hneeded : neededAt log offset = eventHeaderLength := if_pos h
  rw [HasEventAt, hneeded]
  exact ⟨Nat.not_le.2 h, rfl⟩

/-- Where the log has the bytes of a header, as many are needed as the header says. -/
theorem has_header (h : ¬log.length - offset < eventHeaderLength) :
    offset + eventHeaderLength ≤ log.length ∧ neededAt log offset = sizeAt log offset
      ∧ (¬HasEventAt log offset ↔ log.length - offset < sizeAt log offset) := by
  have hneeded : neededAt log offset = sizeAt log offset := if_neg h
  rw [HasEventAt, hneeded]
  refine ⟨?_, rfl, Nat.not_le⟩
  simp only [eventHeaderLength] at h ⊢
  omega

theorem size_eventAt (h : HasEventAt log offset) : (eventAt log offset).size = sizeAt log offset := by
  have hlength : (payloadAt log offset).length = payloadLengthAt log offset :=
    length_slice (by have := (hasEventAt_iff.1 h).2; rw [sizeAt] at this; omega)
  have hparts : ((payloadAt log offset).take (vendorLengthAt log offset)).length
      + ((payloadAt log offset).drop (vendorLengthAt log offset)).length = payloadLengthAt log offset := by
    rw [← List.length_append, List.take_append_drop, hlength]
  exact congrArg (headerLengthAt log offset + ·) hparts

/-! ## One event -/

/-- The byte in a slice of one. -/
theorem littleEndian_slice_one {b : Bytes} {i : Nat} (h : i < b.length) :
    (b.slice i 1).littleEndian = (b.byteAt i).toNat := by
  have hslice : b.slice i 1 = [b.byteAt i] := by
    rw [slice, List.drop_eq_getElem_cons h, byteAt_eq_getElem h]
    rfl
  rw [hslice]
  rfl

theorem slice_drop (b : Bytes) (m offset n : Nat) : slice (b.drop m) offset n = b.slice (m + offset) n := by
  rw [slice, slice, List.drop_drop]

/-- What the table finds in the header of an event. -/
structure HeaderAt (log : Bytes) (offset : Nat) (h : Values EventField) : Prop where
  eventType : h.uint .eventType = (log.byteAt offset).toNat
  revision : h.uint .eventTypeRevision = (log.byteAt (offset + 1)).toNat
  ehl : h.uint .ehl = (log.byteAt (offset + 2)).toNat
  additionalInfo : h.uint .additionalInfo = (log.byteAt (offset + 3)).toNat
  controllerId : h.uint .controllerIdentifier = (log.slice (offset + 4) 2).littleEndian
  timestamp : h.uint .eventTimestamp = (log.slice (offset + 6) 6).littleEndian
  portId : h.uint .portIdentifier = (log.slice (offset + 14) 2).littleEndian
  vsil : h.uint .vsil = vendorLengthAt log offset
  el : h.uint .el = payloadLengthAt log offset

/-- **The table reads the header** of an event that has one. -/
theorem exists_headerAt (h : offset + eventHeaderLength ≤ log.length) :
    ∃ v, eventTable.decode (log.drop offset) = .ok v ∧ HeaderAt log offset v := by
  simp only [eventHeaderLength] at h
  have hlength : eventTable.minLength ≤ (log.drop offset).length := by
    rw [List.length_drop]
    exact Nat.le_sub_of_add_le (by rw [Nat.add_comm]; exact h)
  obtain ⟨v, hv⟩ := Table.decode_isOk_iff.2 hlength
  have hint {id : EventField} {i n : Nat} (hs : eventTable.spec? id = some (.bytes i n .littleEndian)) :
      v.uint id = (log.slice (offset + i) n).littleEndian :=
    (Table.uint_of_decode hv hs rfl).trans (congrArg littleEndian (slice_drop log offset i n))
  have hbyte {id : EventField} {i : Nat} (hs : eventTable.spec? id = some (.bytes i 1 .littleEndian)) (hi : i < 24) :
      v.uint id = (log.byteAt (offset + i)).toNat :=
    (hint hs).trans (littleEndian_slice_one (by omega))
  have htime : v.uint .eventTimestamp = (log.slice (offset + 6) 6).littleEndian :=
    (Table.uint_of_decode hv rfl rfl).trans
      ((readBits_eq_littleEndian (log.drop offset) 6 6).trans (congrArg littleEndian (slice_drop log offset 6 6)))
  exact ⟨v, hv, {
    eventType := hbyte (i := 0) rfl (by decide)
    revision := hbyte rfl (by decide)
    ehl := hbyte rfl (by decide)
    additionalInfo := hbyte rfl (by decide)
    controllerId := hint rfl
    timestamp := htime
    portId := hint rfl
    vsil := hint rfl
    el := hint rfl }⟩

/-- What the table finds makes up the event that the bytes say. -/
theorem HeaderAt.event_eq {v : Values EventField} (h : HeaderAt log offset v) :
    { offset
      type := UInt8.ofNat (v.uint .eventType)
      revision := UInt8.ofNat (v.uint .eventTypeRevision)
      headerLength := UInt8.ofNat (v.uint .ehl)
      additionalInfo := UInt8.ofNat (v.uint .additionalInfo)
      controllerId := UInt16.ofNat (v.uint .controllerIdentifier)
      timestamp := UInt64.ofNat (v.uint .eventTimestamp)
      portId := UInt16.ofNat (v.uint .portIdentifier)
      vendorInfo := (payloadAt log offset).take (v.uint .vsil)
      data := (payloadAt log offset).drop (v.uint .vsil) } = eventAt log offset := by
  rw [h.eventType, h.revision, h.ehl, h.additionalInfo, h.controllerId, h.timestamp, h.portId, h.vsil]
  simp only [UInt8.ofNat_toNat]
  rfl

/-- **The walk reads the event that the bytes say**, or fails for the number of bytes that it needs. -/
theorem readEvent_eq (log : Bytes) (index offset : Nat) :
    readEvent index offset (log.length - offset) (log.drop offset)
      = if HasEventAt log offset then .ok (eventAt log offset)
        else .error (.truncatedLog index offset (neededAt log offset) (log.length - offset)) := by
  by_cases hshort : log.length - offset < eventHeaderLength
  · obtain ⟨hlacks, hneeded⟩ := lacks_header hshort
    rw [readEvent, if_pos hshort, if_neg hlacks, hneeded]
    rfl
  · obtain ⟨hheader, hneeded, hlacks⟩ := has_header hshort
    obtain ⟨v, hv, h⟩ := exists_headerAt hheader
    have hdecode : eventTable.decode ((log.drop offset).take eventHeaderLength) = .ok v :=
      (Table.decode_take (Nat.le_refl eventHeaderLength) _).trans hv
    have hsize : v.uint .ehl + fixedHeaderLength + v.uint .el = sizeAt log offset := by
      rw [h.ehl, h.el]
      rfl
    have hpayload : slice (log.drop offset) (v.uint .ehl + fixedHeaderLength) (v.uint .el) = payloadAt log offset := by
      rw [slice_drop, h.ehl, h.el]
      rfl
    rw [readEvent, if_neg hshort, hdecode]
    change (if log.length - offset < v.uint .ehl + fixedHeaderLength + v.uint .el then _ else _) = _
    rw [hsize]
    by_cases hfits : log.length - offset < sizeAt log offset
    · rw [if_pos hfits, if_neg (hlacks.2 hfits), hneeded]
      rfl
    · rw [if_neg hfits, if_pos (not_not.1 (mt hlacks.1 hfits)), hpayload]
      exact congrArg Except.ok h.event_eq

/-! ## A walk -/

/-- A walk over events of a log, from the one with an index on. -/
def walkOn (log : Bytes) (count index : Nat) : Walk :=
  walkFrom log.length count index (eventOffset log index) (log.drop (eventOffset log index))

theorem walk_eq (log : Bytes) (count : Nat) : walk log count = walkOn log count 0 := rfl

/-- **One step of a walk.** -/
theorem walkOn_succ (log : Bytes) (count index : Nat) :
    walkOn log (count + 1) index
      = if HasEventAt log (eventOffset log index) then
          ⟨eventAt log (eventOffset log index) :: (walkOn log count (index + 1)).events,
            (walkOn log count (index + 1)).failure⟩
        else ⟨[], some (truncation log index)⟩ := by
  rw [walkOn, walkFrom, readEvent_eq]
  by_cases h : HasEventAt log (eventOffset log index)
  · rw [if_pos h, if_pos h]
    simp only [List.drop_drop, size_eventAt h]
    rfl
  · rw [if_neg h, if_neg h]
    rfl

/-- **A walk over events that the log has** comes over them one by one. -/
theorem walkOn_eq {count index : Nat} (h : ∀ i ∈ List.range' index count, HasEventAt log (eventOffset log i)) :
    walkOn log count index = ⟨eventsAt log (List.range' index count), none⟩ := by
  induction count generalizing index with
  | zero => rfl
  | succ count ih =>
    rw [List.range'_succ] at h ⊢
    obtain ⟨hhead, hrest⟩ := List.forall_mem_cons.1 h
    rw [walkOn_succ, if_pos hhead, ih hrest]
    rfl

/-- **A walk ends** at the first event that the log does not have in full. -/
theorem walkOn_eq_of_lacks {k count index i : Nat} (hi : index + k = i) (hk : k < count)
    (h : ∀ j ∈ List.range' index k, HasEventAt log (eventOffset log j)) (hlacks : ¬HasEventAt log (eventOffset log i)) :
    walkOn log count index = ⟨eventsAt log (List.range' index k), some (truncation log i)⟩ := by
  induction count generalizing index k with
  | zero => cases hk
  | succ count ih =>
    rw [walkOn_succ]
    cases k with
    | zero =>
      obtain rfl : index = i := hi
      rw [if_neg hlacks]
      rfl
    | succ k =>
      rw [List.range'_succ] at h ⊢
      obtain ⟨hhead, hrest⟩ := List.forall_mem_cons.1 h
      rw [if_pos hhead, ih (by omega) (Nat.lt_of_succ_lt_succ hk) hrest]
      rfl

/-! ## The outcomes of a walk -/

variable {n : Nat}

theorem events_eq_ok (h : ∀ i < n, HasEventAt log (eventOffset log i)) :
    events log n = .ok (eventsAt log (List.range n)) := by
  rw [events, walk_eq, walkOn_eq fun i hi => h i (by simpa using hi), List.range_eq_range']
  rfl

theorem events_eq_error {i : Nat} (hi : i < n) (h : ∀ j < i, HasEventAt log (eventOffset log j))
    (hlacks : ¬HasEventAt log (eventOffset log i)) : events log n = .error (truncation log i) := by
  rw [events, walk_eq, walkOn_eq_of_lacks (Nat.zero_add i) hi (fun j hj => h j (by simpa using hj)) hlacks]
  rfl

/-- A log has the events that are asked for, or there is a first one that it does not have. -/
theorem has_or_exists_lacks (log : Bytes) (n : Nat) : (∀ i < n, HasEventAt log (eventOffset log i))
    ∨ ∃ i < n, (∀ j < i, HasEventAt log (eventOffset log j)) ∧ ¬HasEventAt log (eventOffset log i) := by
  induction n with
  | zero => exact Or.inl fun i hi => absurd hi (Nat.not_lt_zero i)
  | succ n ih =>
    rcases ih with hall | ⟨i, hi, hfirst⟩
    · by_cases hlast : HasEventAt log (eventOffset log n)
      · exact Or.inl (Nat.forall_lt_succ_right.2 ⟨hall, hlast⟩)
      · exact Or.inr ⟨n, Nat.lt_succ_self n, hall, hlast⟩
    · exact Or.inr ⟨i, Nat.lt_succ_of_lt hi, hfirst⟩

/-- **When a walk succeeds**, and with which events. -/
theorem events_eq_ok_iff {es : List Event} :
    events log n = .ok es ↔ (∀ i < n, HasEventAt log (eventOffset log i)) ∧ es = eventsAt log (List.range n) := by
  constructor
  · intro h
    rcases has_or_exists_lacks log n with hall | ⟨i, hi, hfirst, hlacks⟩
    · cases (events_eq_ok hall).symm.trans h
      exact ⟨hall, rfl⟩
    · cases (events_eq_error hi hfirst hlacks).symm.trans h
  · rintro ⟨hall, rfl⟩
    exact events_eq_ok hall

/-- **When a walk fails**, and with which error. -/
theorem events_eq_error_iff {err : Error} :
    events log n = .error err ↔ ∃ i < n, (∀ j < i, HasEventAt log (eventOffset log j))
      ∧ ¬HasEventAt log (eventOffset log i) ∧ err = truncation log i := by
  constructor
  · intro h
    rcases has_or_exists_lacks log n with hall | ⟨i, hi, hfirst, hlacks⟩
    · cases (events_eq_ok hall).symm.trans h
    · cases (events_eq_error hi hfirst hlacks).symm.trans h
      exact ⟨i, hi, hfirst, hlacks, rfl⟩
  · rintro ⟨i, hi, hfirst, hlacks, rfl⟩
    exact events_eq_error hi hfirst hlacks

/-! ## Logs that agree -/

theorem headerLength_le_eventOffset (log : Bytes) (i : Nat) : headerLength ≤ eventOffset log i := by
  induction i with
  | zero => exact Nat.le_refl _
  | succ i ih => exact Nat.le_trans ih (Nat.le_add_right ..)

/-- A log goes on where another one ends, and has the same bytes after the header. -/
structure Continues (log log' : Bytes) : Prop where
  length_le : log.length ≤ log'.length
  byteAt_eq : ∀ i, headerLength ≤ i → i < log.length → log'.byteAt i = log.byteAt i

theorem continues_append (log s : Bytes) : Continues log (log ++ s) where
  length_le := by rw [List.length_append]; exact Nat.le_add_right ..
  byteAt_eq := fun i _ hi => by rw [byteAt_append, if_pos hi]

theorem continues_of_drop_eq (hl : log'.length = log.length) (h : log'.drop headerLength = log.drop headerLength) :
    Continues log log' where
  length_le := Nat.le_of_eq hl.symm
  byteAt_eq := fun i hi _ => by
    obtain ⟨k, rfl⟩ := Nat.exists_eq_add_of_le hi
    rw [← byteAt_drop, h, byteAt_drop]

namespace Continues

variable (h : Continues log log')
include h

theorem slice_eq {m : Nat} (ho : headerLength ≤ offset) (hm : offset + m ≤ log.length) :
    log'.slice offset m = log.slice offset m := by
  have hm' := Nat.le_trans hm h.length_le
  apply eq_of_byteAt
  · rw [length_slice hm, length_slice hm']
  · intro i hi
    rw [length_slice hm'] at hi
    rw [byteAt_slice, byteAt_slice, if_pos hi, if_pos hi, h.byteAt_eq (offset + i) (by omega) (by omega)]

/-- **An event that a log has** is the same in a log that goes on. -/
theorem eventAt_eq (ho : headerLength ≤ offset) (he : HasEventAt log offset) :
    sizeAt log' offset = sizeAt log offset ∧ HasEventAt log' offset ∧ eventAt log' offset = eventAt log offset := by
  obtain ⟨hheader, hstop⟩ := hasEventAt_iff.1 he
  have hlength := h.length_le
  simp only [eventHeaderLength] at hheader
  have hbyte : ∀ i < 24, log'.byteAt (offset + i) = log.byteAt (offset + i) := fun i hi =>
    h.byteAt_eq _ (by omega) (by omega)
  have hslice : ∀ i m, i + m ≤ 24 → log'.slice (offset + i) m = log.slice (offset + i) m := fun i m him =>
    h.slice_eq (by omega) (by omega)
  have hheaderLength : headerLengthAt log' offset = headerLengthAt log offset := by
    rw [headerLengthAt, headerLengthAt, hbyte 2 (by decide)]
  have hpayloadLength : payloadLengthAt log' offset = payloadLengthAt log offset := by
    rw [payloadLengthAt, payloadLengthAt, hslice 22 2 (by decide)]
  have hvendorLength : vendorLengthAt log' offset = vendorLengthAt log offset := by
    rw [vendorLengthAt, vendorLengthAt, hslice 20 2 (by decide)]
  have hsize : sizeAt log' offset = sizeAt log offset := by rw [sizeAt, sizeAt, hheaderLength, hpayloadLength]
  have hpayload : payloadAt log' offset = payloadAt log offset := by
    rw [sizeAt] at hstop
    rw [payloadAt, payloadAt, hheaderLength, hpayloadLength]
    exact h.slice_eq (by omega) (by omega)
  have htype : log'.byteAt offset = log.byteAt offset := hbyte 0 (by decide)
  refine ⟨hsize, hasEventAt_iff.2 ⟨?_, ?_⟩, ?_⟩
  · simp only [eventHeaderLength]
    omega
  · rw [hsize]
    omega
  · rw [eventAt, htype, hpayload, hvendorLength, hbyte 1 (by decide), hbyte 2 (by decide), hbyte 3 (by decide), wordAt,
      wordAt, hslice 4 2 (by decide), hslice 6 6 (by decide), hslice 14 2 (by decide)]
    rfl

/-- Events that a log has are at the same places in a log that goes on. -/
theorem eventOffset_eq {i : Nat} (hall : ∀ j < i, HasEventAt log (eventOffset log j)) :
    eventOffset log' i = eventOffset log i := by
  induction i with
  | zero => rfl
  | succ i ih =>
    have hlast := hall i (Nat.lt_succ_self i)
    rw [eventOffset, ih fun j hj => hall j (Nat.lt_succ_of_lt hj),
      (h.eventAt_eq (headerLength_le_eventOffset log i) hlast).1]
    rfl

/-- **A walk that succeeds** finds the same events in a log that goes on. -/
theorem events_eq {es : List Event} (hes : events log n = .ok es) : events log' n = .ok es := by
  obtain ⟨hall, rfl⟩ := events_eq_ok_iff.1 hes
  have hsame : ∀ i < n, eventOffset log' i = eventOffset log i
      ∧ HasEventAt log' (eventOffset log i) ∧ eventAt log' (eventOffset log i) = eventAt log (eventOffset log i) :=
    fun i hi => ⟨h.eventOffset_eq fun j hj => hall j (Nat.lt_trans hj hi),
      (h.eventAt_eq (headerLength_le_eventOffset log i) (hall i hi)).2⟩
  refine events_eq_ok_iff.2 ⟨fun i hi => ?_, List.map_congr_left fun i hi => ?_⟩
  · rw [(hsame i hi).1]
    exact (hsame i hi).2.1
  · obtain ⟨hoffset, -, hevent⟩ := hsame i (List.mem_range.1 hi)
    rw [hoffset, hevent]

end Continues

/-! ## More and fewer events -/

/-- A walk over fewer events finds the first of them. -/
theorem events_take {es : List Event} (h : events log n = .ok es) {m : Nat} (hm : m ≤ n) :
    events log m = .ok (es.take m) := by
  obtain ⟨hall, rfl⟩ := events_eq_ok_iff.1 h
  refine events_eq_ok_iff.2 ⟨fun i hi => hall i (Nat.lt_of_lt_of_le hi hm), ?_⟩
  rw [eventsAt, ← List.map_take, List.take_range, Nat.min_eq_left hm]
  rfl

/-- **What a walk has found stays found.** A walk that succeeds gives the first events of every longer one, and the same
events of a log that goes on, and of one with another header. A walk that fails does so at an event, and then every walk
over that event fails alike. -/
theorem walk_monotone (log : Bytes) (n : Nat) :
    (∀ es, events log n = .ok es →
      (∀ m ≤ n, events log m = .ok (es.take m)) ∧ (∀ s, events (log ++ s) n = .ok es)
        ∧ ∀ log' : Bytes, log'.length = log.length → log'.drop headerLength = log.drop headerLength →
          events log' n = .ok es)
    ∧ ∀ err, events log n = .error err → ∃ i offset needed available, err = .truncatedLog i offset needed available
        ∧ i < n ∧ ∀ m, i < m → events log m = .error err := by
  constructor
  · intro es h
    exact ⟨fun m => events_take h, fun s => (continues_append log s).events_eq h,
      fun log' hl hd => (continues_of_drop_eq hl hd).events_eq h⟩
  · intro err h
    obtain ⟨i, hi, hfirst, hlacks, rfl⟩ := events_eq_error_iff.1 h
    exact ⟨i, _, _, _, rfl, hi, fun m hm => events_eq_error hm hfirst hlacks⟩

/-- An event, and another one of which four bytes are missing. -/
theorem walk_monotone_truncated :
    (let log := zeros 512 ++ (extendedEvent.pack ++ bareEvent.pack.take 20)
    (∀ s, events (log ++ s) 1 = .ok [extendedEvent.placedAt 512])
      ∧ events log 1000 = .error (.truncatedLog 1 543 24 20)) := by
  intro log
  have hone : events log 1 = .ok [extendedEvent.placedAt 512] := by decide +kernel
  have htwo : events log 2 = .error (.truncatedLog 1 543 24 20) := by decide +kernel
  obtain ⟨-, happend, -⟩ := (walk_monotone log 1).1 _ hone
  obtain ⟨i, _, _, _, hindex, -, hmore⟩ := (walk_monotone log 2).2 _ htwo
  cases hindex
  exact ⟨happend, hmore 1000 (by decide)⟩

end StorageCommands.EventLog
