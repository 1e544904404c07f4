import StorageCommands.Proofs.EventLog.Walk

/-!
# Where the parts of events lie

An event lies in a log from its offset up to `Event.stop`: first a header, as long as the event says that it is, then
its payload, which is vendor information and event data. The walk reads the first 24 bytes of an event as its header,
however long the event says that this is.

- `storedIn_eventAt`: what an event of a walk says is what the log has there (`Event.StoredIn`).
- `endToEnd_eventsAt`: the events of a walk follow each other without gaps (`EndToEnd`), so no two of them share a byte
  from the offset of each up to its end.
- `parts_apart`: the 24 bytes that are read as a header are clear of the payload and of later events exactly where the
  event says that its header has as many bytes, or where nothing follows. A shorter header is read over what follows it.
-/

namespace StorageCommands.EventLog

open Layout Bytes Nvme

variable {log : Bytes} {offset n : Nat}

/-! ## One event -/

namespace Event

section

variable (e : Event)

/-- Vendor information and event data. -/
def payload : Bytes := e.vendorInfo ++ e.data

/-- Where the payload begins: after the header, as long as the event says that it is. -/
def payloadStart : Nat := e.offset + (e.headerLength.toNat + fixedHeaderLength)

/-- Where the event ends. -/
def stop : Nat := e.offset + e.size

/-- The place of a byte that is read as the header of the event. -/
def InHeader (i : Nat) : Prop := e.offset ≤ i ∧ i < e.offset + eventHeaderLength

/-- The place of a byte that is read as vendor information or event data. -/
def InPayload (i : Nat) : Prop := e.payloadStart ≤ i ∧ i < e.stop

/-- The place of a byte that is read as part of the event. -/
def Reads (i : Nat) : Prop := e.InHeader i ∨ e.InPayload i

/-- The header of an event is before its payload and before the events that follow it. -/
def HeaderClear (after : List Event) : Prop :=
  (∀ i j, e.InHeader i → e.InPayload j → i < j) ∧ ∀ e' ∈ after, e.offset + eventHeaderLength ≤ e'.offset

theorem stop_eq : e.stop = e.payloadStart + e.payload.length := by
  rw [stop, size, payloadStart, payload, List.length_append]
  omega

theorem offset_add_le_payloadStart : e.offset + fixedHeaderLength ≤ e.payloadStart := by
  rw [payloadStart]
  omega

theorem payloadStart_le_stop : e.payloadStart ≤ e.stop := by
  rw [stop_eq]
  omega

/-- Nothing in front of an event is read as part of it. -/
theorem offset_le_of_reads {i : Nat} (h : e.Reads i) : e.offset ≤ i := by
  rcases h with hheader | hpayload
  · exact hheader.1
  · exact Nat.le_trans (Nat.le_trans (Nat.le_add_right ..) e.offset_add_le_payloadStart) hpayload.1

end

/-- What an event says is what a log has where the event lies. -/
structure StoredIn (e : Event) (log : Bytes) : Prop where
  header_le : e.offset + eventHeaderLength ≤ log.length
  stop_le : e.stop ≤ log.length
  type : e.type = log.byteAt e.offset
  revision : e.revision = log.byteAt (e.offset + 1)
  headerLength : e.headerLength = log.byteAt (e.offset + 2)
  additionalInfo : e.additionalInfo = log.byteAt (e.offset + 3)
  controllerId : e.controllerId.toNat = (log.slice (e.offset + 4) 2).littleEndian
  timestamp : e.timestamp.toNat = (log.slice (e.offset + 6) 6).littleEndian
  portId : e.portId.toNat = (log.slice (e.offset + 14) 2).littleEndian
  payload : e.payload = log.slice e.payloadStart (e.stop - e.payloadStart)
  length_payload : e.payload.length = payloadLengthAt log e.offset
  length_vendorInfo : e.vendorInfo.length = min (vendorLengthAt log e.offset) (payloadLengthAt log e.offset)

end Event

open Event

theorem payload_eventAt (log : Bytes) (offset : Nat) : (eventAt log offset).payload = payloadAt log offset :=
  List.take_append_drop ..

/-- **An event that a log has** says what the log has there. -/
theorem storedIn_eventAt (h : HasEventAt log offset) : (eventAt log offset).StoredIn log := by
  obtain ⟨hheader, hsize⟩ := hasEventAt_iff.1 h
  have hstop : (eventAt log offset).stop = offset + sizeAt log offset := congrArg (offset + ·) (size_eventAt h)
  have hlength : (payloadAt log offset).length = payloadLengthAt log offset :=
    length_slice (by rw [sizeAt] at hsize; omega)
  have htime : (log.slice (offset + 6) 6).littleEndian < 2 ^ 64 :=
    Nat.lt_trans (littleEndian_slice_lt log (offset + 6) 6) (by decide)
  exact {
    header_le := hheader
    stop_le := by rw [hstop]; exact hsize
    type := rfl
    revision := rfl
    headerLength := rfl
    additionalInfo := rfl
    controllerId := toNat_wordAt ..
    timestamp := UInt64.toNat_ofNat_of_lt' htime
    portId := toNat_wordAt ..
    payload := by
      rw [stop_eq, Nat.add_sub_cancel_left, payload_eventAt, hlength]
      rfl
    length_payload := by rw [payload_eventAt, hlength]; rfl
    length_vendorInfo := (List.length_take ..).trans (congrArg (min _) hlength) }

/-! ## Events that follow each other -/

/-- Events that follow each other without gaps, from one place in a log to another. -/
inductive EndToEnd : Nat → List Event → Nat → Prop
  | nil (offset : Nat) : EndToEnd offset [] offset
  | cons {e : Event} {es : List Event} {stop : Nat} : EndToEnd e.stop es stop → EndToEnd e.offset (e :: es) stop

/-- **The events of a log follow each other without gaps.** -/
theorem endToEnd_eventsAt {index : Nat} (h : ∀ i ∈ List.range' index n, HasEventAt log (eventOffset log i)) :
    EndToEnd (eventOffset log index) (eventsAt log (List.range' index n)) (eventOffset log (index + n)) := by
  induction n generalizing index with
  | zero => exact .nil _
  | succ n ih =>
    rw [List.range'_succ] at h ⊢
    obtain ⟨hhead, hrest⟩ := List.forall_mem_cons.1 h
    have hnext : (eventAt log (eventOffset log index)).stop = eventOffset log (index + 1) :=
      congrArg (eventOffset log index + ·) (size_eventAt hhead)
    have htail := ih hrest
    rw [← hnext, Nat.add_assoc, Nat.add_comm 1] at htail
    exact .cons htail

namespace EndToEnd

variable {es : List Event} {start stop : Nat}

/-- Each event takes up at least three bytes. -/
theorem add_le (h : EndToEnd start es stop) : start + fixedHeaderLength * es.length ≤ stop := by
  induction h with
  | nil _ => exact Nat.le_refl _
  | @cons e es stop _ ih =>
    have := e.offset_add_le_payloadStart
    have := e.payloadStart_le_stop
    rw [List.length_cons, Nat.mul_succ]
    omega

/-- The events are inside what they take up together. -/
theorem bounds (h : EndToEnd start es stop) : ∀ e ∈ es, start ≤ e.offset ∧ e.stop ≤ stop := by
  induction h with
  | nil _ => nofun
  | @cons e es stop htail ih =>
    have hstop : e.stop ≤ stop := Nat.le_trans (Nat.le_add_right ..) htail.add_le
    refine List.forall_mem_cons.2 ⟨⟨Nat.le_refl _, hstop⟩, fun e' he' => ⟨?_, (ih e' he').2⟩⟩
    exact Nat.le_trans (Nat.le_add_right ..) (ih e' he').1

/-- Each event ends before the later ones begin. -/
theorem ordered (h : EndToEnd start es stop) : es.Pairwise fun e e' => e.stop ≤ e'.offset := by
  induction h with
  | nil _ => exact .nil
  | cons htail ih => exact .cons (fun e' he' => (htail.bounds e' he').1) ih

theorem suffix (h : EndToEnd start es stop) {e : Event} {after : List Event} (hs : e :: after <:+ es) :
    EndToEnd e.offset (e :: after) stop := by
  induction h with
  | nil _ => cases List.eq_nil_of_suffix_nil hs
  | cons htail ih =>
    rcases List.suffix_cons_iff.1 hs with heq | hs
    · cases heq
      exact .cons htail
    · exact ih hs

end EndToEnd

/-- A walk that succeeds gives events that follow each other, each as the log has it. -/
theorem endToEnd_of_events {es : List Event} (h : events log n = .ok es) :
    EndToEnd headerLength es (eventOffset log n) ∧ ∀ e ∈ es, e.StoredIn log := by
  obtain ⟨hall, rfl⟩ := events_eq_ok_iff.1 h
  constructor
  · have hends : EndToEnd (eventOffset log 0) (eventsAt log (List.range' 0 n)) (eventOffset log (0 + n)) :=
      endToEnd_eventsAt fun i hi => hall i (by simpa using hi)
    rw [Nat.zero_add] at hends
    rw [List.range_eq_range']
    exact hends
  · intro e he
    obtain ⟨i, hi, rfl⟩ := List.mem_map.1 he
    exact storedIn_eventAt (hall i (List.mem_range.1 hi))

/-! ## Headers and what follows them -/

/-- No byte is read as header and as payload, or as part of two events. -/
def ReadOnce (es : List Event) : Prop :=
  (∀ e ∈ es, ∀ i, e.InHeader i → ¬e.InPayload i) ∧ es.Pairwise fun e e' => ∀ i, e.Reads i → ¬e'.Reads i

namespace EndToEnd

variable {e : Event} {es : List Event} {start stop : Nat}

/-- A header is clear of what follows it if it is as long as it is read, or if nothing follows. -/
theorem headerClear (h : EndToEnd start (e :: es) stop)
    (hlong : eventHeaderLength ≤ e.headerLength.toNat + fixedHeaderLength ∨ e.payload = [] ∧ es = []) :
    e.HeaderClear es := by
  rcases hlong with hlong | ⟨hpayload, rfl⟩
  · have hstart : e.offset + eventHeaderLength ≤ e.payloadStart := Nat.add_le_add_left hlong _
    have hstop := e.payloadStart_le_stop
    refine ⟨fun i j hi hj => Nat.lt_of_lt_of_le hi.2 (Nat.le_trans hstart hj.1), fun e' he' => ?_⟩
    have hnext := (List.pairwise_cons.1 h.ordered).1 e' he'
    omega
  · have hstop : e.stop = e.payloadStart := by rw [stop_eq, hpayload]; rfl
    refine ⟨fun i j _ hj => ?_, nofun⟩
    rw [InPayload, hstop] at hj
    exact absurd hj.1 (Nat.not_le.2 hj.2)

/-- A header that is shorter than it is read shares its last bytes with what follows it. -/
theorem exists_shared (h : EndToEnd start (e :: es) stop)
    (hshort : e.headerLength.toNat + fixedHeaderLength < eventHeaderLength) (hmore : e.payload ≠ [] ∨ es ≠ []) :
    e.InHeader e.payloadStart ∧ (e.InPayload e.payloadStart ∨ ∃ e' ∈ es, e'.offset = e.payloadStart) := by
  have hstop := e.stop_eq
  have hin : e.InHeader e.payloadStart :=
    ⟨Nat.le_trans (Nat.le_add_right ..) e.offset_add_le_payloadStart, Nat.add_lt_add_left hshort _⟩
  refine ⟨hin, ?_⟩
  by_cases hpayload : e.payload = []
  · -- without payload, the next event begins where the header is said to end
    obtain ⟨e', es', rfl⟩ := List.exists_cons_of_ne_nil (hmore.resolve_left (not_not_intro hpayload))
    rw [hpayload] at hstop
    cases h with
    | cons htail =>
      refine Or.inr ⟨e', List.mem_cons_self, ?_⟩
      generalize e.stop = next at htail hstop
      cases htail
      exact hstop
  · have hpos := List.length_pos_iff.2 hpayload
    exact Or.inl ⟨Nat.le_refl _, by omega⟩

/-- **When a header is clear** of what follows it: exactly if it is as long as it is read, or if nothing follows. -/
theorem headerClear_iff (h : EndToEnd start (e :: es) stop) :
    e.HeaderClear es ↔ eventHeaderLength ≤ e.headerLength.toNat + fixedHeaderLength ∨ e.payload = [] ∧ es = [] := by
  refine ⟨fun hclear => ?_, h.headerClear⟩
  by_contra hnot
  obtain ⟨hshort, hmore⟩ := not_or.1 hnot
  obtain ⟨hin, hpayload | ⟨e', he', hnext⟩⟩ := h.exists_shared (Nat.not_le.1 hshort) (not_and_or.1 hmore)
  · exact Nat.lt_irrefl _ (hclear.1 _ _ hin hpayload)
  · exact Nat.lt_irrefl _ (Nat.lt_of_lt_of_le hin.2 (hnext ▸ hclear.2 e' he'))

/-- No byte is read twice if every header is clear of what follows it. -/
theorem readOnce_of_clear (h : EndToEnd start es stop) (hclear : ∀ e after, e :: after <:+ es → e.HeaderClear after) :
    ReadOnce es := by
  induction h with
  | nil _ => exact ⟨nofun, .nil⟩
  | @cons e es stop htail ih =>
    obtain ⟨hheaders, hevents⟩ := ih fun e' after hs => hclear e' after (hs.trans (List.suffix_cons e es))
    obtain ⟨hpayload, hafter⟩ := hclear e es List.suffix_rfl
    refine ⟨List.forall_mem_cons.2 ⟨fun i hi hj => Nat.lt_irrefl _ (hpayload i i hi hj), hheaders⟩,
      .cons (fun e' he' i hi hi' => ?_) hevents⟩
    have hbefore : i < e'.offset := by
      rcases hi with hi | hi
      · exact Nat.lt_of_lt_of_le hi.2 (hafter e' he')
      · exact Nat.lt_of_lt_of_le hi.2 (htail.bounds e' he').1
    exact absurd hbefore (Nat.not_lt.2 (e'.offset_le_of_reads hi'))

/-- **No byte is read twice** exactly if every header is clear of what follows it. -/
theorem readOnce_iff (h : EndToEnd start es stop) :
    ReadOnce es ↔ ∀ e after, e :: after <:+ es → e.HeaderClear after := by
  refine ⟨fun honce e after hs => ?_, h.readOnce_of_clear⟩
  have hrest := h.suffix hs
  by_contra hnot
  obtain ⟨hshort, hmore⟩ := not_or.1 (mt hrest.headerClear hnot)
  obtain ⟨hin, hpayload | ⟨e', he', hnext⟩⟩ := hrest.exists_shared (Nat.not_le.1 hshort) (not_and_or.1 hmore)
  · exact honce.1 e (hs.subset List.mem_cons_self) _ hin hpayload
  · have hevents := (List.pairwise_cons.1 (honce.2.sublist hs.sublist)).1 e' he'
    have hin' : e'.InHeader e.payloadStart := ⟨Nat.le_of_eq hnext, by simp only [eventHeaderLength]; omega⟩
    exact hevents _ (Or.inl hin) (Or.inl hin')

end EndToEnd

/-- **How the parts of events lie.** Of each event of a walk that succeeds, the payload is after the header that the
event says it has, and the event ends before the next one begins. The 24 bytes that are read as its header are before
its payload and before the later events if the event says that its header has as many bytes, and otherwise only where
nothing follows them. So no byte is read twice exactly if no event with something behind it says that its header is
shorter. -/
theorem parts_apart (log : Bytes) (count : Nat) (es : List Event) (h : events log count = .ok es) :
    (∀ e ∈ es, e.StoredIn log ∧ e.offset + fixedHeaderLength ≤ e.payloadStart ∧ e.payloadStart ≤ e.stop)
      ∧ es.Pairwise (fun e e' => e.stop ≤ e'.offset)
      ∧ (∀ e after, e :: after <:+ es →
          (e.HeaderClear after
            ↔ eventHeaderLength ≤ e.headerLength.toNat + fixedHeaderLength ∨ e.payload = [] ∧ after = []))
      ∧ (ReadOnce es ↔ ∀ e after, e :: after <:+ es →
          eventHeaderLength ≤ e.headerLength.toNat + fixedHeaderLength ∨ e.payload = [] ∧ after = []) := by
  obtain ⟨hends, hstored⟩ := endToEnd_of_events h
  have hclear : ∀ e after, e :: after <:+ es → (e.HeaderClear after
      ↔ eventHeaderLength ≤ e.headerLength.toNat + fixedHeaderLength ∨ e.payload = [] ∧ after = []) :=
    fun e after hs => (hends.suffix hs).headerClear_iff
  refine ⟨fun e he => ⟨hstored e he, e.offset_add_le_payloadStart, e.payloadStart_le_stop⟩, hends.ordered, hclear, ?_⟩
  rw [hends.readOnce_iff]
  exact forall_congr' fun e => forall_congr' fun after => forall_congr' (hclear e after)

/-- A thermal excursion that says that its header has three bytes, and two bytes of data. -/
def shortHeader : Bytes :=
  [0x0d, 1, 0, 7, 3, 0, 0, 0, 0, 0, 0, 0, 0, 0, 0, 0, 0, 0, 0, 0, 0, 0, 2, 0, 4, 1]

/-- The event that such a header gives. Its data are the fourth and the fifth byte of the header. -/
def shortHeaderEvent (offset : Nat) : Event where
  offset
  type := .thermalExcursion
  revision := 1
  headerLength := 0
  additionalInfo := 7
  controllerId := 3
  timestamp := 0
  portId := 0
  vendorInfo := []
  data := [7, 3]

/-- After an event with a long header, one with a short header: the first is clear, the second is not. -/
theorem parts_apart_shortHeader :
    (let es := [extendedEvent.placedAt 512, shortHeaderEvent 543]
    events (zeros 512 ++ (extendedEvent.pack ++ shortHeader)) 2 = .ok es
      ∧ (extendedEvent.placedAt 512).HeaderClear [shortHeaderEvent 543]
      ∧ ¬(shortHeaderEvent 543).HeaderClear [] ∧ ¬ReadOnce es) := by
  intro es
  have h : events (zeros 512 ++ (extendedEvent.pack ++ shortHeader)) 2 = .ok es := by decide +kernel
  obtain ⟨-, -, hclear, honce⟩ := parts_apart _ 2 es h
  have hlast : [shortHeaderEvent 543] <:+ es := List.suffix_cons ..
  have hshort : ¬(eventHeaderLength ≤ (shortHeaderEvent 543).headerLength.toNat + fixedHeaderLength
      ∨ (shortHeaderEvent 543).payload = [] ∧ ([] : List Event) = []) := by decide
  exact ⟨h, (hclear _ _ List.suffix_rfl).2 (by decide), mt (hclear _ _ hlast).1 hshort,
    fun hread => hshort (honce.1 hread _ _ hlast)⟩

/-- **A short header is read over what follows it**: not every walk that succeeds keeps the parts of its events
apart. -/
theorem short_header_overlaps : ¬∀ (log : Bytes) (count : Nat) (es : List Event), events log count = .ok es →
    (∀ e after, e :: after <:+ es → e.HeaderClear after) ∧ ReadOnce es := by
  intro h
  have hevents : events (zeros 512 ++ shortHeader) 1 = .ok [shortHeaderEvent 512] := by decide +kernel
  obtain ⟨-, hheaders, -⟩ := h _ _ _ hevents
  -- the first byte of data is the fourth one of the header
  exact hheaders (shortHeaderEvent 512) List.mem_cons_self 515 ⟨by decide, by decide⟩ ⟨by decide, by decide⟩

end StorageCommands.EventLog
