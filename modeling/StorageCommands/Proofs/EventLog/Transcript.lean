import StorageCommands.Proofs.EventLog.Requests

/-!
# The commands of an operation, in order

`Transcript` says which commands an operation puts on the transport, in which order, and how far the read that the
session keeps has come then. A log is read in two parts (`LogReads`): the header, unless a read has been kept, and the
rest from where the read stands (`Rest`). The chunks that were read lie end to end (`Chunks`).
-/

namespace StorageCommands.EventLog

open Nvme

/-! ## Transcripts -/

/-- Chunks of a log that were read, each from where the one before it ends. -/
inductive Chunks (chunkSize total : Nat) : Nat → List Exchange → Nat → Prop
  | nil (offset : Nat) : Chunks chunkSize total offset [] offset
  | cons {offset stop : Nat} {e : Exchange} {es : List Exchange} (hlt : offset < total)
      (hr : Requests e.command .read offset (min chunkSize (total - offset))) (hs : e.succeeded = true)
      (h : Chunks chunkSize total (offset + min chunkSize (total - offset)) es stop) :
      Chunks chunkSize total offset (e :: es) stop

/-- What reading the rest of a log from an offset on puts on the transport. The read stands at `stop` then. -/
inductive Rest (s : Session) (total offset : Nat) : List Exchange → Nat → Prop
  /-- Every chunk was read. -/
  | chunks {es : List Exchange} (hx : s.extended = true) (h : Chunks s.config.chunkSize total offset es total) :
      Rest s total offset es total
  /-- A chunk was not read. -/
  | failed {es : List Exchange} {e : Exchange} {stop : Nat} (hx : s.extended = true)
      (h : Chunks s.config.chunkSize total offset es stop) (hlt : stop < total)
      (hr : Requests e.command .read stop (min s.config.chunkSize (total - stop))) (hs : e.succeeded = false) :
      Rest s total offset (es ++ [e]) stop
  /-- The next chunk is too long for a command. -/
  | unsent {es : List Exchange} {stop : Nat} (hx : s.extended = true)
      (h : Chunks s.config.chunkSize total offset es stop) (hlt : stop < total)
      (hlong : 2 ^ 34 < min s.config.chunkSize (total - stop)) : Rest s total offset es stop
  /-- The header was all of the log. -/
  | header (hx : s.extended = false) (h : total = offset) : Rest s total offset [] total
  /-- The log is too long for a command without an offset. -/
  | refused (hx : s.extended = false) (hlt : offset < total) (hlong : maxShortTransfer < total) :
      Rest s total offset [] offset
  /-- The whole log was asked for. -/
  | whole {e : Exchange} (hx : s.extended = false) (hlt : offset < total) (hle : total ≤ maxShortTransfer)
      (hr : Requests e.command .read 0 total) : Rest s total offset [e] (if e.succeeded then total else offset)

/-- How a read ends that stands at `stop`: with the log, or with an error if that is not the end. After an error the
read is kept as it stands or given up. -/
inductive Ends (p : Progress) (stop : Nat) : Except Error Log → Option Progress → Prop
  | finished {log : Log} (hstop : stop = p.total) (hlog : log.header = p.header) : Ends p stop (.ok log) none
  | failed {e : Error} {kept : Option Progress} (hstop : stop < p.total)
      (hkept : ∀ p' ∈ kept, p'.header = p.header ∧ p'.total = p.total ∧ p'.offset = stop) : Ends p stop (.error e) kept

/-- What reading the log puts on the transport, its result, and the read that is kept. -/
inductive LogReads (s : Session) : List Exchange → Except Error Log → Option Progress → Prop
  /-- A read that had been kept went on. -/
  | resumed {p : Progress} {es : List Exchange} {stop : Nat} {r : Except Error Log} {kept : Option Progress}
      (hp : s.progress = some p) (h : Rest s p.total p.offset es stop) (he : Ends p stop r kept) : LogReads s es r kept
  /-- There was no header of a log that can be read. -/
  | unread {e : Exchange} {err : Error} (hp : s.progress = none) (hr : Requests e.command .read 0 headerLength)
      (hu : e.succeeded = true → ∀ header total, Header.decode e.received = .ok header →
        header.alignedLength = some total → s.maxLogLength < total) : LogReads s [e] (.error err) none
  /-- A read began with its header. -/
  | begun {e : Exchange} {p : Progress} {es : List Exchange} {stop : Nat} {r : Except Error Log}
      {kept : Option Progress} (hp : s.progress = none) (hr : Requests e.command .read 0 headerLength)
      (hs : e.succeeded = true) (hh : Header.decode e.received = .ok p.header)
      (ht : p.header.alignedLength = some p.total) (hl : p.total ≤ s.maxLogLength)
      (h : Rest s p.total headerLength es stop) (he : Ends p stop r kept) : LogReads s (e :: es) r kept

/-- What an operation puts on the transport, its result, and the read that is kept. -/
def Transcript (s : Session) (op : Operation) (es : List Exchange) (r : Except Error (Option Log))
    (kept : Option Progress) : Prop :=
  match op with
  | .establish => NoLog r ∧ kept = none ∧ ∃ e, es = [e] ∧ Requests e.command .establish 0 headerLength
  | .release => NoLog r ∧ kept = none ∧ ∃ e, es = [e] ∧ Requests e.command .release 0 headerLength
  | .checkContext =>
    NoLog r ∧ (kept = s.progress ∨ kept = none) ∧ ∃ e, es = [e] ∧ Requests e.command .read 0 headerLength
  | .readLogUnchecked => ∃ r', r = r'.map some ∧ LogReads s es r' kept
  | .readLog =>
    if s.state = .established then ∃ r', r = r'.map some ∧ LogReads s es r' kept
    else kept = s.progress ∧ es = [] ∧ ∃ e, r = .error e
  | .retrieve => kept = none ∧ ∃ made, Requests made.command .establish 0 headerLength ∧
      ((es = [made] ∧ ∃ e, r = .error e) ∨ ∃ reads released r' kept', es = made :: reads ++ [released]
        ∧ r = r'.map some ∧ LogReads { s with progress := none } reads r' kept'
        ∧ Requests released.command .release 0 headerLength)

/-! ## Chunks -/

theorem Chunks.trans {chunkSize total start mid stop : Nat} {es es' : List Exchange}
    (h : Chunks chunkSize total start es mid) (h' : Chunks chunkSize total mid es' stop) :
    Chunks chunkSize total start (es ++ es') stop := by
  induction h with
  | nil _ => exact h'
  | cons hlt hr hs _ ih => exact .cons hlt hr hs (ih h')

/-- One chunk more. -/
theorem Chunks.concat {chunkSize total start stop : Nat} {es : List Exchange} {e : Exchange}
    (h : Chunks chunkSize total start es stop) (hlt : stop < total)
    (hr : Requests e.command .read stop (min chunkSize (total - stop))) (hs : e.succeeded = true) :
    Chunks chunkSize total start (es ++ [e]) (stop + min chunkSize (total - stop)) :=
  h.trans (.cons hlt hr hs (.nil _))

/-! ## Sessions of one setup -/

/-- What a session was made with. -/
structure Session.SameSetup (s s' : Session) : Prop where
  config : s'.config = s.config
  extended : s'.extended = s.extended
  maxLogLength : s'.maxLogLength = s.maxLogLength

theorem Session.SameSetup.refl (s : Session) : s.SameSetup s := ⟨rfl, rfl, rfl⟩

theorem Session.SameSetup.trans {s s' s'' : Session} (h : s.SameSetup s') (h' : s'.SameSetup s'') : s.SameSetup s'' :=
  ⟨h'.config.trans h.config, h'.extended.trans h.extended, h'.maxLogLength.trans h.maxLogLength⟩

theorem Session.sameSetup_believing (s : Session) (state : ContextState) : s.SameSetup (s.believing state) :=
  ⟨rfl, rfl, rfl⟩

theorem Rest.of_sameSetup {s s' : Session} (hs : s.SameSetup s') {total offset stop : Nat} {es : List Exchange}
    (h : Rest s' total offset es stop) : Rest s total offset es stop := by
  obtain ⟨hc, hx, -⟩ := hs
  cases h with
  | chunks hx' h => exact .chunks (hx ▸ hx') (hc ▸ h)
  | failed hx' h hlt hr hs => exact .failed (hx ▸ hx') (hc ▸ h) hlt (hc ▸ hr) hs
  | unsent hx' h hlt hlong => exact .unsent (hx ▸ hx') (hc ▸ h) hlt (hc ▸ hlong)
  | header hx' h => exact .header (hx ▸ hx') h
  | refused hx' hlt hlong => exact .refused (hx ▸ hx') hlt hlong
  | whole hx' hlt hle hr => exact .whole (hx ▸ hx') hlt hle hr

theorem LogReads.of_sameSetup {s s' : Session} (hs : s.SameSetup s') (hp : s'.progress = s.progress)
    {es : List Exchange} {r : Except Error Log} {kept : Option Progress} (h : LogReads s' es r kept) :
    LogReads s es r kept := by
  cases h with
  | resumed hp' h he => exact .resumed (hp.symm.trans hp') (h.of_sameSetup hs) he
  | unread hp' hr hu => exact .unread (hp.symm.trans hp') hr (hs.maxLogLength ▸ hu)
  | begun hp' hr hs' hh ht hl h he =>
    exact .begun (hp.symm.trans hp') hr hs' hh ht (hs.maxLogLength ▸ hl) (h.of_sameSetup hs) he

/-! ## Commands -/

theorem Chunks.reads {chunkSize total start stop : Nat} {es : List Exchange}
    (h : Chunks chunkSize total start es stop) : ∀ e ∈ es, ∃ offset len, Requests e.command .read offset len := by
  induction h with
  | nil _ => exact fun _ he => by cases he
  | cons _ hr _ _ ih => exact List.forall_mem_cons.2 ⟨⟨_, _, hr⟩, ih⟩

theorem Rest.reads {s : Session} {total start stop : Nat} {es : List Exchange} (h : Rest s total start es stop) :
    ∀ e ∈ es, ∃ offset len, Requests e.command .read offset len := by
  cases h with
  | chunks _ h => exact h.reads
  | failed _ h _ hr _ => exact List.forall_mem_append.2 ⟨h.reads, List.forall_mem_singleton.2 ⟨_, _, hr⟩⟩
  | unsent _ h _ _ => exact h.reads
  | header _ _ => exact fun _ he => by cases he
  | refused _ _ _ => exact fun _ he => by cases he
  | whole _ _ _ hr => exact List.forall_mem_singleton.2 ⟨_, _, hr⟩

theorem LogReads.reads {s : Session} {es : List Exchange} {r : Except Error Log} {kept : Option Progress}
    (h : LogReads s es r kept) : ∀ e ∈ es, ∃ offset len, Requests e.command .read offset len := by
  cases h with
  | resumed _ h _ => exact h.reads
  | unread _ hr _ => exact List.forall_mem_singleton.2 ⟨_, _, hr⟩
  | begun _ hr _ _ _ _ h _ => exact List.forall_mem_cons.2 ⟨⟨_, _, hr⟩, h.reads⟩

/-- Every command of a transcript is one of a session. -/
theorem Transcript.requests {s : Session} {op : Operation} {es : List Exchange} {r : Except Error (Option Log)}
    {kept : Option Progress} (h : Transcript s op es r kept) :
    ∀ e ∈ es, ∃ action offset len, Requests e.command action offset len := by
  have hreads : ∀ {s es r kept}, LogReads s es r kept → ∀ e ∈ es, ∃ action offset len,
      Requests e.command action offset len := fun h e he => ⟨.read, h.reads e he⟩
  cases op with
  | establish | release | checkContext =>
    obtain ⟨-, -, e, rfl, hr⟩ := h
    exact List.forall_mem_singleton.2 ⟨_, _, _, hr⟩
  | readLogUnchecked =>
    obtain ⟨_, -, h⟩ := h
    exact hreads h
  | readLog =>
    simp only [Transcript] at h
    split at h
    · obtain ⟨_, -, h⟩ := h
      exact hreads h
    · rw [h.2.1]
      exact fun _ he => by cases he
  | retrieve =>
    obtain ⟨-, made, hr, ⟨rfl, -⟩ | ⟨reads, released, r', kept', rfl, -, h, hr'⟩⟩ := h
    · exact List.forall_mem_singleton.2 ⟨_, _, _, hr⟩
    · refine List.forall_mem_append.2 ⟨List.forall_mem_cons.2 ⟨⟨_, _, _, hr⟩, hreads h⟩, ?_⟩
      exact List.forall_mem_singleton.2 ⟨_, _, _, hr'⟩

end StorageCommands.EventLog
