import StorageCommands.Proofs.EventLog.EventParts

/-!
# Walking step by step

`walk` reads a log as a function of its bytes. Here the same is done as a driver does it (`Stepwise.walk`): offsets and
lengths are machine words, and each step says what it needs. A sum has to be a machine word, a range has to lie inside
the string that it is taken of, and so does the place where a string is split. A step that does not get what it needs
halts.

- `Stepwise.readEvent_eq`, `Stepwise.walkFrom_eq`: over a log whose length is a machine word, no step halts for another
  reason than that an event does not fit, which the walk reports.
- `walk_exact`: what a walk gives, and what it reports if it fails.
-/

namespace StorageCommands.EventLog

open Layout Bytes Nvme

namespace Stepwise

/-! ## Work that may halt -/

/-- Why work does not go on. -/
inductive Halt (ε : Type)
  /-- The work fails, and reports why. -/
  | refused (e : ε)
  /-- A sum, a difference or a product is no machine word, or a shift is too wide. -/
  | overflow
  /-- A range, or a place to split at, is not inside a byte string. -/
  | outOfBounds
  /-- Decoding or encoding in place halts, other than by a report. -/
  | undecoded (h : InPlace.Halt)
  deriving DecidableEq, Repr

abbrev Work (ε α : Type) := Except (Halt ε) α

section

variable {ε : Type}

/-- Adds machine words. -/
def add (m n : Nat) : Work ε Nat := if m + n < 2 ^ 64 then .ok (m + n) else .error .overflow

/-- A number as a machine word. -/
def word (n : Nat) : Work ε {m // m = n} := if n < 2 ^ 64 then .ok ⟨n, rfl⟩ else .error .overflow

/-- Subtracts machine words. -/
def subtract (m n : Nat) : Work ε {d // d + n = m} :=
  if h : n ≤ m then .ok ⟨m - n, Nat.sub_add_cancel h⟩ else .error .overflow

/-- Rounds a machine word up to a multiple of a unit. -/
def roundUp (n unit : Nat) : Work ε {m // n ≤ m} := do
  if n % unit = 0 then return ⟨n, Nat.le_refl n⟩
  let missing ← subtract unit (n % unit)
  let m ← word (n + missing)
  return ⟨m, Nat.le_of_add_right_le (Nat.le_of_eq m.2.symm)⟩

/-- Takes the bytes of a string from one place up to another. -/
def range (b : Bytes) (start stop : Nat) : Work ε Bytes :=
  if start ≤ stop ∧ stop ≤ b.length then .ok (b.slice start (stop - start)) else .error .outOfBounds

/-- Splits a string at a place. -/
def split (b : Bytes) (place : Nat) : Work ε (Bytes × Bytes) :=
  if place ≤ b.length then .ok (b.take place, b.drop place) else .error .outOfBounds

/-- Takes the byte at an index. -/
def index (b : Bytes) (i : Nat) : Work ε UInt8 := if i < b.length then .ok (b.byteAt i) else .error .outOfBounds

/-- Copies a string over a window, which has to be as long. -/
def copy (window new : Bytes) : Work ε Bytes := if new.length = window.length then .ok new else .error .outOfBounds

/-- Decodes a string in place, and reports a field that it does not have. -/
def decode {ι : Type} [Named ι] (t : Table ι) (report : Layout.Error → ε) (b : Bytes) : Work ε (Values ι) :=
  match ((InPlace.decode t).run.run b).1 with
  | .ok values => .ok values
  | .error (.refused e) => .error (.refused (report e))
  | .error h => .error (.undecoded h)

/-- Work with its report read as another one. -/
def reported {ε' α : Type} (f : ε → ε') (x : Work ε α) : Work ε' α :=
  x.mapError fun
    | .refused e => .refused (f e)
    | .overflow => .overflow
    | .outOfBounds => .outOfBounds
    | .undecoded h => .undecoded h

/-- Work after work that does not halt. -/
theorem bind_ok {α β : Type} {x : Except ε α} {a : α} (f : α → Except ε β) (h : x = .ok a) : (x >>= f) = f a := by
  rw [h]
  rfl

theorem mapError_bind {ε' α β : Type} (f : ε → ε') (x : Except ε α) (k : α → Except ε β) :
    (x >>= k).mapError f = x.mapError f >>= fun a => (k a).mapError f := by
  cases x <;> rfl

theorem add_eq {m n : Nat} (h : m + n < 2 ^ 64) : add m n = (.ok (m + n) : Work ε Nat) := if_pos h

theorem word_eq {n : Nat} (h : n < 2 ^ 64) : word n = (.ok ⟨n, rfl⟩ : Work ε {m // m = n}) := if_pos h

theorem subtract_eq {m n : Nat} (h : n ≤ m) :
    subtract m n = (.ok ⟨m - n, Nat.sub_add_cancel h⟩ : Work ε {d // d + n = m}) :=
  dif_pos h

/-- A multiple is not rounded. -/
theorem roundUp_eq {n unit : Nat} (h : n % unit = 0) :
    roundUp n unit = (.ok ⟨n, Nat.le_refl n⟩ : Work ε {m // n ≤ m}) := by
  rw [roundUp, if_pos h]
  rfl

theorem range_eq {b : Bytes} {start stop : Nat} (h : start ≤ stop) (hstop : stop ≤ b.length) :
    range b start stop = (.ok (b.slice start (stop - start)) : Work ε Bytes) :=
  if_pos ⟨h, hstop⟩

/-- The bytes up to the end. -/
theorem range_end {b : Bytes} {start : Nat} (h : start ≤ b.length) :
    range b start b.length = (.ok (b.drop start) : Work ε Bytes) := by
  rw [range_eq h (Nat.le_refl _)]
  exact congrArg Except.ok (List.take_of_length_le (Nat.le_of_eq (List.length_drop ..)))

theorem split_eq {b : Bytes} {place : Nat} (h : place ≤ b.length) :
    split b place = (.ok (b.take place, b.drop place) : Work ε (Bytes × Bytes)) :=
  if_pos h

theorem index_eq {b : Bytes} {i : Nat} (h : i < b.length) : index b i = (.ok (b.byteAt i) : Work ε UInt8) := if_pos h

theorem copy_eq {window new : Bytes} (h : new.length = window.length) : copy window new = (.ok new : Work ε Bytes) :=
  if_pos h

/-- Decoding with fields that can be built halts only with a report. -/
theorem decode_eq {ι : Type} [Named ι] {t : Table ι} (ht : ∀ f ∈ t.fields, f.2.WellFormed ∧ InPlace.MachineSized f.2)
    (report : Layout.Error → ε) (b : Bytes) :
    decode t report b = (t.decode b).mapError fun e => .refused (report e) := by
  rw [decode, InPlace.run_decode ht]
  cases t.decode b <;> rfl

end

/-! ## The walk -/

/-- Reads the event at an offset, and how many bytes it takes up. -/
def readEvent (log : Bytes) (index offset : Nat) : Work Error (Event × Nat) := do
  -- zero if the offset is past the end
  let available := log.length - offset
  if available < eventHeaderLength then throw (.refused (.truncatedLog index offset eventHeaderLength available))
  let rest ← range log offset log.length
  let h ← decode eventTable .header rest
  let bodyStart ← add (h.uint .ehl) fixedHeaderLength
  let size ← add bodyStart (h.uint .el)
  if available < size then throw (.refused (.truncatedLog index offset size available))
  let body ← range rest bodyStart size
  let (vendorInfo, data) ← split body (min (h.uint .vsil) body.length)
  let event : Event := {
    offset
    type := UInt8.ofNat (h.uint .eventType)
    revision := UInt8.ofNat (h.uint .eventTypeRevision)
    headerLength := UInt8.ofNat (h.uint .ehl)
    additionalInfo := UInt8.ofNat (h.uint .additionalInfo)
    controllerId := UInt16.ofNat (h.uint .controllerIdentifier)
    timestamp := UInt64.ofNat (h.uint .eventTimestamp)
    portId := UInt16.ofNat (h.uint .portIdentifier)
    vendorInfo
    data }
  return (event, size)

/-- Walks over `count` events from an offset of a log on. -/
def walkFrom (log : Bytes) : (count index offset : Nat) → Work Error (List Event)
  | 0, _, _ => return []
  | count + 1, index, offset => do
    let (event, size) ← readEvent log index offset
    let next ← add offset size
    return event :: (← walkFrom log count (index + 1) next)

/-- Walks over the first `count` events of a log, header included. -/
def walk (log : Bytes) (count : Nat) : Work Error (List Event) := walkFrom log count 0 headerLength

end Stepwise

variable {log : Bytes}

namespace Stepwise

theorem headerLengthAt_lt (log : Bytes) (offset : Nat) : headerLengthAt log offset < 2 ^ 8 + fixedHeaderLength :=
  Nat.add_lt_add_right (UInt8.toNat_lt _) _

theorem payloadLengthAt_lt (log : Bytes) (offset : Nat) : payloadLengthAt log offset < 2 ^ 16 :=
  littleEndian_slice_lt log (offset + 22) 2

/-- The vendor information of a payload, and what follows it. -/
theorem split_min (b : Bytes) (n : Nat) :
    split b (min n b.length) = (.ok (b.take n, b.drop n) : Work Error (Bytes × Bytes)) := by
  have htake : b.take (min n b.length) = b.take n := by rw [← List.take_eq_take_min]
  have hdrop : b.drop (min n b.length) = b.drop n := List.drop_eq_drop_min.symm
  rw [split_eq (Nat.min_le_right ..), htake, hdrop]

/-- **One event**: reading it halts only where the event does not fit, and reports that. -/
theorem readEvent_eq (log : Bytes) (index offset : Nat) :
    readEvent log index offset
      = if HasEventAt log offset then .ok (eventAt log offset, sizeAt log offset)
        else .error (.refused (.truncatedLog index offset (neededAt log offset) (log.length - offset))) := by
  by_cases hshort : log.length - offset < eventHeaderLength
  · obtain ⟨hlacks, hneeded⟩ := lacks_header hshort
    rw [readEvent, if_pos hshort, if_neg hlacks, hneeded]
    rfl
  · obtain ⟨hheader, hneeded, hlacks⟩ := has_header hshort
    obtain ⟨v, hv, h⟩ := exists_headerAt hheader
    have hbody := headerLengthAt_lt log offset
    have hpayload := payloadLengthAt_lt log offset
    simp only [fixedHeaderLength] at hbody
    have hrest : range log offset log.length = (.ok (log.drop offset) : Work Error Bytes) :=
      range_end (Nat.le_trans (Nat.le_add_right ..) hheader)
    have hdecode : decode eventTable .header (log.drop offset) = (.ok v : Work Error (Values EventField)) := by
      rw [decode_eq (by decide), hv]
      rfl
    have hstart : add (v.uint .ehl) fixedHeaderLength = (.ok (headerLengthAt log offset) : Work Error Nat) := by
      rw [h.ehl]
      exact add_eq (Nat.lt_trans hbody (by decide))
    have hsize : add (headerLengthAt log offset) (v.uint .el) = (.ok (sizeAt log offset) : Work Error Nat) := by
      rw [h.el]
      exact add_eq (by omega)
    rw [readEvent, if_neg hshort, bind_ok _ hrest, bind_ok _ hdecode, bind_ok _ hstart, bind_ok _ hsize]
    by_cases hfits : log.length - offset < sizeAt log offset
    · rw [if_pos hfits, if_neg (hlacks.2 hfits), hneeded]
      rfl
    · have hle : headerLengthAt log offset ≤ sizeAt log offset := Nat.le_add_right ..
      have hstop : sizeAt log offset ≤ (log.drop offset).length := by
        rw [List.length_drop]
        exact Nat.le_of_not_lt hfits
      have hbytes : range (log.drop offset) (headerLengthAt log offset) (sizeAt log offset)
          = (.ok (payloadAt log offset) : Work Error Bytes) := by
        rw [range_eq hle hstop, slice_drop, sizeAt, Nat.add_sub_cancel_left]
        rfl
      rw [if_neg hfits, if_pos (not_not.1 (mt hlacks.1 hfits)), bind_ok _ hbytes, bind_ok _ (split_min ..)]
      exact congrArg (fun e => Except.ok (e, sizeAt log offset)) h.event_eq

/-- **A walk** halts only where an event does not fit, and reports that. -/
theorem walkFrom_eq (hlog : log.length < 2 ^ 64) (count index : Nat) :
    walkFrom log count index (eventOffset log index) = (walkOn log count index).result.mapError .refused := by
  induction count generalizing index with
  | zero => rfl
  | succ count ih =>
    have hread := readEvent_eq log index (eventOffset log index)
    rw [walkFrom, walkOn_succ]
    by_cases h : HasEventAt log (eventOffset log index)
    · rw [if_pos h] at hread
      have hnext : add (eventOffset log index) (sizeAt log (eventOffset log index))
          = (.ok (eventOffset log (index + 1)) : Work Error Nat) :=
        add_eq (Nat.lt_of_le_of_lt (hasEventAt_iff.1 h).2 hlog)
      rw [if_pos h, bind_ok _ hread]
      dsimp only
      rw [bind_ok _ hnext, ih]
      generalize walkOn log count (index + 1) = w
      obtain ⟨events, _ | err⟩ := w <;> rfl
    · rw [if_neg h] at hread
      rw [if_neg h, hread]
      rfl

theorem walk_eq (hlog : log.length < 2 ^ 64) (count : Nat) :
    walk log count = (events log count).mapError .refused :=
  walkFrom_eq hlog count 0

end Stepwise

/-! ## What a walk gives -/

variable {count : Nat}

/-- A walk that succeeds: as many events as were asked for, each as the log has it, one after the other. -/
theorem of_events_eq_ok {es : List Event} (h : events log count = .ok es) :
    es.length = count ∧ (∃ stop, EndToEnd headerLength es stop ∧ (es ≠ [] → stop ≤ log.length))
      ∧ (∀ e ∈ es, e.StoredIn log) ∧ (0 < count → headerLength + fixedHeaderLength * count ≤ log.length) := by
  obtain ⟨hends, hstored⟩ := endToEnd_of_events h
  obtain ⟨hall, rfl⟩ := events_eq_ok_iff.1 h
  have hlength : (eventsAt log (List.range count)).length = count := by
    rw [eventsAt, List.length_map, List.length_range]
  have hstop : 0 < count → eventOffset log count ≤ log.length := by
    intro hpos
    obtain ⟨last, rfl⟩ := Nat.exists_eq_succ_of_ne_zero (Nat.ne_of_gt hpos)
    exact (hasEventAt_iff.1 (hall last (Nat.lt_succ_self last))).2
  have hbound := hends.add_le
  rw [hlength] at hbound
  refine ⟨hlength, ⟨_, hends, fun hne => hstop ?_⟩, hstored, fun hpos => Nat.le_trans hbound (hstop hpos)⟩
  rw [← hlength]
  exact List.length_pos_iff.2 hne

/-- A walk that fails: an event after those that the log has does not fit. -/
theorem of_events_eq_error {err : Error} (h : events log count = .error err) :
    ∃ index offset needed available, err = .truncatedLog index offset needed available ∧ index < count
      ∧ (∃ es, events log index = .ok es ∧ EndToEnd headerLength es offset)
      ∧ available = log.length - offset ∧ available < needed
      ∧ needed = if available < eventHeaderLength then eventHeaderLength else sizeAt log offset := by
  obtain ⟨i, hi, hfirst, hlacks, rfl⟩ := events_eq_error_iff.1 h
  have hok := events_eq_ok hfirst
  exact ⟨i, _, _, _, rfl, hi, ⟨_, hok, (endToEnd_of_events hok).1⟩, rfl, Nat.not_le.1 hlacks, rfl⟩

/-- **A walk over any log.** If it succeeds, it gives as many events as were asked for, from the end of the header on
without gaps, each with what the log has in its place; so the log has at least three bytes for each. If it fails, then
for an event that does not fit, after events that a walk gives, and it reports where this event begins, what is left
there and what was needed. Done step by step, all this ends in the same way: every range lies inside the string that it
is taken of, no sum overflows, and there is no other halt. -/
theorem walk_exact (log : Bytes) (count : Nat) :
    (∀ es, events log count = .ok es →
      es.length = count ∧ (∃ stop, EndToEnd headerLength es stop ∧ (es ≠ [] → stop ≤ log.length))
        ∧ (∀ e ∈ es, e.StoredIn log) ∧ (0 < count → headerLength + fixedHeaderLength * count ≤ log.length))
    ∧ (∀ err, events log count = .error err →
      ∃ index offset needed available, err = .truncatedLog index offset needed available ∧ index < count
        ∧ (∃ es, events log index = .ok es ∧ EndToEnd headerLength es offset)
        ∧ available = log.length - offset ∧ available < needed
        ∧ needed = if available < eventHeaderLength then eventHeaderLength else sizeAt log offset)
    ∧ (log.length < 2 ^ 64 → Stepwise.walk log count = (events log count).mapError .refused) :=
  ⟨fun _ => of_events_eq_ok, fun _ => of_events_eq_error, fun hlog => Stepwise.walk_eq hlog count⟩

/-- An event of 31 bytes, and another one of which the last byte is missing. -/
theorem walk_exact_truncated :
    (let log := zeros 512 ++ (extendedEvent.pack ++ extendedEvent.pack.take 30)
    (extendedEvent.placedAt 512).StoredIn log ∧ (∃ stop, EndToEnd 512 [extendedEvent.placedAt 512] stop)
      ∧ Stepwise.walk log 1 = .ok [extendedEvent.placedAt 512]
      ∧ Stepwise.walk log 2 = .error (.refused (.truncatedLog 1 543 31 30))) := by
  intro log
  have hone : events log 1 = .ok [extendedEvent.placedAt 512] := by decide +kernel
  have htwo : events log 2 = .error (.truncatedLog 1 543 31 30) := by decide +kernel
  have hlog : log.length < 2 ^ 64 := by decide +kernel
  obtain ⟨hok, -, hrun⟩ := walk_exact log 1
  obtain ⟨-, ⟨stop, hends, -⟩, hstored, -⟩ := hok _ hone
  obtain ⟨-, -, hhalt⟩ := walk_exact log 2
  specialize hrun hlog
  specialize hhalt hlog
  rw [hone] at hrun
  rw [htwo] at hhalt
  exact ⟨hstored _ List.mem_cons_self, ⟨stop, hends⟩, hrun, hhalt⟩

end StorageCommands.EventLog
