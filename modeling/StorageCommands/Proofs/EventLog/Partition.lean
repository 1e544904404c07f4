import StorageCommands.Proofs.EventLog.Conformance

/-!
# Every byte of a log is read once

A read of a log may take many calls: a command fails, the context is checked, the read goes on. `ReadRun` follows a read
from call to call as long as it is not given up, with the commands that it put on the transport after the header. Those
of them that succeeded lie end to end from the header to where the read stands, and at the end of the read to the end of
the log: `chunks_read_once`. Commands that fail leave the read where it is.

Every call reads a chunk or fails, and so the number of its commands is bounded by the length of the log, whatever the
device answers.
-/

namespace StorageCommands.EventLog

open Nvme

variable {σ : Type}

/-! ## Counting chunks -/

namespace Chunks

variable {chunkSize total start stop : Nat} {es : List Exchange}

/-- A read in chunks stays within the log. -/
theorem bounds (h : Chunks chunkSize total start es stop) (hs : start ≤ total) : start ≤ stop ∧ stop ≤ total := by
  induction h with
  | nil _ => exact ⟨Nat.le_refl _, hs⟩
  | cons hlt _ _ _ ih =>
    have := ih (by omega)
    omega

/-- A read before the end of the log has had full chunks only. -/
theorem stop_eq (h : Chunks chunkSize total start es stop) (hlt : stop < total) :
    stop = start + es.length * chunkSize := by
  induction h with
  | nil _ => rw [List.length_nil, Nat.zero_mul, Nat.add_zero]
  | @cons offset stop e es _ _ _ h ih =>
    have hbounds := h.bounds (by omega)
    have hstop := ih hlt
    have hfull : min chunkSize (total - offset) = chunkSize := by omega
    rw [hfull] at hstop
    rw [hstop, List.length_cons, Nat.succ_mul, Nat.add_assoc, Nat.add_comm chunkSize]

/-- **The number of chunks** of a whole log. -/
theorem length_eq (h : Chunks chunkSize total start es stop) (hs : start ≤ total) (hc : 0 < chunkSize)
    (hstop : stop = total) : es.length = (total - start + (chunkSize - 1)) / chunkSize := by
  induction h with
  | nil offset =>
    rw [hstop, Nat.sub_self, Nat.zero_add, Nat.div_eq_of_lt (by omega)]
    rfl
  | @cons offset stop e es hlt _ _ _ ih =>
    have hrest := ih (by omega) hstop
    rw [List.length_cons, hrest]
    by_cases hfull : chunkSize ≤ total - offset
    · rw [← Nat.add_div_right _ hc]
      congr 1
      omega
    · -- the last chunk is shorter than the others
      rw [Nat.div_eq_of_lt (by omega),
        show total - offset + (chunkSize - 1) = total - offset - 1 + chunkSize by omega, Nat.add_div_right _ hc,
        Nat.div_eq_of_lt (by omega)]

/-- A read before the end of the log has had fewer chunks. -/
theorem length_lt (h : Chunks chunkSize total start es stop) (hc : 0 < chunkSize) (hlt : stop < total) :
    es.length < (total - start + (chunkSize - 1)) / chunkSize := by
  have hstop := h.stop_eq hlt
  rw [← Nat.succ_le_iff, Nat.le_div_iff_mul_le hc, Nat.succ_mul]
  omega

/-- All chunks of a read in chunks succeeded. -/
theorem filter_succeeded (h : Chunks chunkSize total start es stop) : es.filter Exchange.succeeded = es := by
  refine List.filter_eq_self.2 fun e he => ?_
  induction h with
  | nil _ => cases he
  | cons _ _ hs _ ih =>
    rcases List.mem_cons.1 he with rfl | he
    · exact hs
    · exact ih he

end Chunks

/-! ## One call -/

/-- Where a read goes on: where it stands, or after the header. -/
def Session.start (s : Session) : Nat := s.progress.elim headerLength (·.offset)

theorem Session.start_of_some {s : Session} {p : Progress} (h : s.progress = some p) : s.start = p.offset := by
  rw [start, h]
  rfl

theorem Session.start_of_none {s : Session} (h : s.progress = none) : s.start = headerLength := by
  rw [start, h]
  rfl

variable {s : Session} {es : List Exchange}

/-- The part of a read of the log that follows the header. -/
def afterHeader (s : Session) (es : List Exchange) : List Exchange := if s.progress.isSome then es else es.tail

theorem mem_of_mem_afterHeader {e : Exchange} (h : e ∈ afterHeader s es) : e ∈ es := by
  unfold afterHeader at h
  split at h
  · exact h
  · exact List.mem_of_mem_tail h

/-- Reading the rest of a log: the commands that succeeded are the chunks up to where the read stands. -/
theorem Rest.chunks_read {total offset stop : Nat} (h : Rest s total offset es stop) (hx : s.extended = true)
    (ho : offset ≤ total) : Chunks s.config.chunkSize total offset (es.filter Exchange.succeeded) stop
      ∧ es.length ≤ (total - offset + (s.config.chunkSize - 1)) / s.config.chunkSize := by
  have hextended : s.extended ≠ false := by rw [hx]; exact Bool.noConfusion
  cases h with
  | chunks _ h =>
    rw [h.filter_succeeded]
    exact ⟨h, Nat.le_of_eq (h.length_eq ho s.chunkSize_pos rfl)⟩
  | @failed es e _ _ h hlt _ hs =>
    rw [List.filter_append, h.filter_succeeded, List.filter_cons_of_neg (by rw [hs]; exact Bool.false_ne_true),
      List.filter_nil, List.append_nil, List.length_append]
    exact ⟨h, h.length_lt s.chunkSize_pos hlt⟩
  | unsent _ h hlt _ =>
    rw [h.filter_succeeded]
    exact ⟨h, Nat.le_of_lt (h.length_lt s.chunkSize_pos hlt)⟩
  | header hx' _ | refused hx' _ _ | whole hx' _ _ _ => exact absurd hx' hextended

/-- A read of the log whose rest was read, or begun to be read, from where it stood. -/
structure HasRest (s : Session) (es : List Exchange) (p : Progress) (stop : Nat) : Prop where
  rest : Rest s p.total s.start (afterHeader s es) stop
  total : p.header.alignedLength = some p.total
  begun : headerLength ≤ s.start
  within : s.start ≤ p.total
  bounded : p.total ≤ s.maxLogLength
  resumed : ∀ q ∈ s.progress, q.total = p.total
  header : s.progress = none → ∃ e ∈ es, e.succeeded = true
  length : es.length ≤ 1 + (afterHeader s es).length

namespace LogReads

variable {r : Except Error Log} {kept : Option Progress}

/-- A read that begins asks for the header. -/
theorem exists_cons (h : LogReads s es r kept) (hp : s.progress = none) : ∃ e es', es = e :: es' := by
  cases h with
  | resumed hp' _ _ => cases hp.symm.trans hp'
  | unread _ _ _ => exact ⟨_, _, rfl⟩
  | begun _ _ _ _ _ _ _ _ => exact ⟨_, _, rfl⟩

/-- A read of the log without a rest had no header, and one command. -/
theorem exists_rest (h : LogReads s es r kept) (hs : s.Sound) :
    (kept = none ∧ (∃ e, r = .error e) ∧ es.length ≤ 1) ∨ ∃ p stop, HasRest s es p stop ∧ Ends p stop r kept := by
  cases h with
  | @unread _ err _ _ _ => exact Or.inl ⟨rfl, ⟨err, rfl⟩, Nat.le_refl 1⟩
  | @resumed p _ stop _ _ hp h he =>
    obtain ⟨hsound, -⟩ := hs p hp
    have hall : afterHeader s es = es := by rw [afterHeader, hp]; rfl
    have hstart := Session.start_of_some hp
    refine Or.inr ⟨p, stop, ⟨?_, hsound.total, ?_, ?_, hsound.bounded, fun q hq => ?_, fun hnone => ?_, ?_⟩, he⟩
    · rwa [hall, hstart]
    · rw [hstart]
      exact hsound.begun
    · rw [hstart]
      exact hsound.within
    · cases hp.symm.trans hq
      rfl
    · cases hp.symm.trans hnone
    · rw [hall]
      exact Nat.le_add_left ..
  | @begun e p es stop _ _ hp hr hs hh ht hl h he =>
    have htail : afterHeader s (e :: es) = es := by rw [afterHeader, hp]; rfl
    have hstart := Session.start_of_none hp
    refine Or.inr ⟨p, stop, ⟨?_, ht, ?_, ?_, hl, fun q hq => ?_, fun _ => ⟨e, List.mem_cons_self, hs⟩, ?_⟩, he⟩
    · rwa [htail, hstart]
    · exact Nat.le_of_eq hstart.symm
    · rw [hstart]
      exact (alignedLength_bounds ht).2.1
    · cases hp.symm.trans hq
    · rw [htail]
      exact Nat.le_of_eq (Nat.add_comm ..)

end LogReads

/-- What a call does for a read, given all of its commands and those that came after the header. -/
structure Furthers (s : Session) (all part : List Exchange) (log? : Option Log) (kept : Option Progress) : Prop where
  /-- A read that is kept stands after the chunks that were read. -/
  standing : ∀ p ∈ kept, Chunks s.config.chunkSize p.total s.start (part.filter Exchange.succeeded) p.offset
    ∧ ∀ q ∈ s.progress, q.total = p.total
  /-- A read that ends has had all chunks. -/
  finished : ∀ log ∈ log?, ∃ total, log.header.alignedLength = some total
    ∧ Chunks s.config.chunkSize total s.start (part.filter Exchange.succeeded) total ∧ ∀ q ∈ s.progress, q.total = total
  /-- Commands that fail leave a read that is kept where it is. -/
  failed : (∀ e ∈ all, e.succeeded = false) → kept = none ∨ kept.map (·.offset) = s.progress.map (·.offset)

/-- A call without commands for the read leaves the read alone or gives it up. -/
theorem Furthers.of_idle {all : List Exchange} {kept : Option Progress} (h : kept = s.progress ∨ kept = none) :
    Furthers s all [] none kept := by
  refine ⟨fun p hp => ?_, nofun, fun _ => ?_⟩
  · rcases h with rfl | rfl
    · rw [Session.start_of_some hp]
      refine ⟨.nil _, fun q hq => ?_⟩
      cases Option.mem_unique hq hp
      rfl
    · cases hp
  · rcases h with rfl | rfl
    · exact Or.inr rfl
    · exact Or.inl rfl

/-- **A read of the log** furthers a read, with a bounded number of commands. -/
theorem LogReads.furthers {r : Except Error Log} {kept : Option Progress} (h : LogReads s es r kept) (hs : s.Sound)
    (hx : s.extended = true) : Furthers s es (afterHeader s es) r.toOption kept
      ∧ es.length ≤ 1 + (s.maxLogLength - headerLength + (s.config.chunkSize - 1)) / s.config.chunkSize := by
  rcases h.exists_rest hs with ⟨rfl, ⟨e, rfl⟩, hlength⟩ | ⟨p, stop, hrest, hends⟩
  · refine ⟨⟨nofun, nofun, fun _ => Or.inl rfl⟩, ?_⟩
    exact Nat.le_trans hlength (Nat.le_add_right ..)
  · obtain ⟨hchunks, hcount⟩ := hrest.rest.chunks_read hx hrest.within
    refine ⟨⟨fun q hq => ?_, fun log hlog => ?_, fun hfailed => ?_⟩, ?_⟩
    · cases hends with
      | finished _ _ => cases hq
      | failed _ hkept =>
        obtain ⟨-, htotal, hoffset⟩ := hkept q hq
        rw [htotal, hoffset]
        exact ⟨hchunks, hrest.resumed⟩
    · cases hends with
      | failed _ _ => cases hlog
      | finished hstop hheader =>
        cases hlog
        refine ⟨p.total, by rw [hheader]; exact hrest.total, ?_, hrest.resumed⟩
        rw [hstop] at hchunks
        exact hchunks
    · cases hends with
      | finished _ _ => exact Or.inl rfl
      | @failed _ kept _ hkept =>
        cases hp : kept with
        | none => exact Or.inl rfl
        | some p' =>
          obtain ⟨-, -, hoffset⟩ := hkept p' hp
          have hnone : (afterHeader s es).filter Exchange.succeeded = [] :=
            List.filter_eq_nil_iff.2 fun e he => by rw [hfailed e (mem_of_mem_afterHeader he)]; exact Bool.false_ne_true
          rw [hnone] at hchunks
          cases hq : s.progress with
          | none =>
            obtain ⟨e, he, hs⟩ := hrest.header hq
            rw [hfailed e he] at hs
            cases hs
          | some q =>
            cases hchunks
            right
            rw [Option.map_some, Option.map_some, hoffset, Session.start_of_some hq]
    · have hbegun := hrest.begun
      have hwithin := hrest.within
      have hbounded := hrest.bounded
      refine Nat.le_trans hrest.length (Nat.add_le_add_left (Nat.le_trans hcount (Nat.div_le_div_right ?_)) 1)
      omega

/-! ## All calls -/

/-- The commands of an operation that come after the header of a log. -/
def Operation.afterHeader (op : Operation) (s : Session) (es : List Exchange) : List Exchange :=
  match op with
  | .readLog | .readLogUnchecked => EventLog.afterHeader s es
  -- a context is made before the header is read, and given back at the end
  | .retrieve => (es.drop 2).dropLast
  | .establish | .checkContext | .release => []

/-- The commands with which an operation reads a log after its header. -/
def Operation.transfers (t : Transport σ) (op : Operation) (d : Dialogue σ) : List Exchange :=
  op.afterHeader d.session (op.exchanges t d)

/-- A read of a log from before its header on, as long as it is not given up, with its commands after the header. -/
inductive ReadRun (t : Transport σ) (between : Dialogue σ → World σ → Prop) : Dialogue σ → List Exchange → Prop
  | start {d : Dialogue σ} (h : Reaches t between d) (hp : d.session.progress = none) : ReadRun t between d []
  | perform (op : Operation) {d : Dialogue σ} {es : List Exchange} (h : ReadRun t between d es)
      (hkept : ((op.perform t).run.run d).2.session.progress ≠ none) :
      ReadRun t between ((op.perform t).run.run d).2 (es ++ op.transfers t d)
  | idle {d : Dialogue σ} {w : World σ} {es : List Exchange} (h : ReadRun t between d es) (hw : between d w) :
      ReadRun t between { d with world := w } es

theorem NoLog.join_toOption {r : Except Error (Option Log)} (h : NoLog r) : r.toOption.join = none := by
  cases r with
  | error e => rfl
  | ok log =>
    cases log with
    | none => rfl
    | some log => exact (h log rfl).elim

/-- **Every operation** furthers a read, unless it gives one up to read the log anew. -/
theorem Transcript.furthers {op : Operation} {r : Except Error (Option Log)} {kept : Option Progress}
    (h : Transcript s op es r kept) (hs : s.Sound) (hx : s.extended = true)
    (hop : op ≠ .retrieve ∨ s.progress = none) :
    Furthers s es (op.afterHeader s es) r.toOption.join kept := by
  have hjoin : ∀ r' : Except Error Log, (r'.map some).toOption.join = r'.toOption := by
    intro r'
    cases r' <;> rfl
  have hidle : NoLog r → (kept = s.progress ∨ kept = none) → Furthers s es [] r.toOption.join kept := by
    intro hr hkept
    rw [hr.join_toOption]
    exact .of_idle hkept
  cases op with
  | establish | release => exact hidle h.1 (Or.inr h.2.1)
  | checkContext => exact hidle h.1 h.2.1
  | readLogUnchecked =>
    obtain ⟨r', rfl, h⟩ := h
    rw [hjoin]
    exact (h.furthers hs hx).1
  | readLog =>
    simp only [Transcript] at h
    split at h
    · obtain ⟨r', rfl, h⟩ := h
      rw [hjoin]
      exact (h.furthers hs hx).1
    · obtain ⟨hkept, rfl, e, rfl⟩ := h
      have hnothing : EventLog.afterHeader s [] = [] := by rw [EventLog.afterHeader, List.tail_nil, ite_self]
      rw [Operation.afterHeader, hnothing]
      exact .of_idle (Or.inl hkept)
  | retrieve =>
    obtain ⟨hkept, made, -, ⟨rfl, e, rfl⟩ | ⟨reads, released, r', kept', rfl, rfl, h, -⟩⟩ := h
    · exact .of_idle (Or.inr hkept)
    · have hnone : s.progress = none := hop.resolve_left fun hne => hne rfl
      have hpart : Operation.retrieve.afterHeader s (made :: reads ++ [released]) = reads.tail := by
        obtain ⟨x, xs, rfl⟩ := h.exists_cons rfl
        simp only [Operation.afterHeader, List.cons_append, List.drop_succ_cons, List.drop_zero, List.dropLast_concat,
          List.tail_cons]
      have hfurthers := (h.furthers (.of_none rfl) hx).1
      rw [hjoin, hpart, hkept]
      refine ⟨fun _ hq => (by cases hq), fun log hlog => ?_, fun _ => Or.inl rfl⟩
      obtain ⟨total, htotal, hchunks, -⟩ := hfurthers.finished log hlog
      refine ⟨total, htotal, ?_, fun q hq => by cases hnone.symm.trans hq⟩
      rw [Session.start_of_none hnone]
      exact hchunks

namespace ReadRun

variable {t : Transport σ} {between : Dialogue σ → World σ → Prop} {d : Dialogue σ}

theorem reaches (h : ReadRun t between d es) : Reaches t between d := by
  induction h with
  | start h _ => exact h
  | perform op _ _ ih => exact .perform op ih
  | idle _ hw ih => exact .idle ih hw

/-- A read that has not begun has had no commands. -/
theorem eq_nil (h : ReadRun t between d es) (hp : d.session.progress = none) : es = [] := by
  induction h with
  | start _ _ => rfl
  | perform _ _ hkept _ => exact (hkept hp).elim
  | idle _ _ ih => exact ih hp

/-- The chunks of an operation continue those of the run. -/
theorem chunks_append (h : ReadRun t between d es) {chunkSize total stop : Nat} {es' : List Exchange}
    (hkept : ∀ p ∈ d.session.progress,
      Chunks chunkSize p.total headerLength (es.filter Exchange.succeeded) p.offset)
    (hsame : ∀ p ∈ d.session.progress, p.total = total)
    (hchunks : Chunks chunkSize total d.session.start (es'.filter Exchange.succeeded) stop) :
    Chunks chunkSize total headerLength ((es ++ es').filter Exchange.succeeded) stop := by
  cases hp : d.session.progress with
  | none =>
    rw [Session.start_of_none hp] at hchunks
    rw [h.eq_nil hp, List.nil_append]
    exact hchunks
  | some p =>
    have hstanding := hkept p hp
    rw [hsame p hp] at hstanding
    rw [Session.start_of_some hp] at hchunks
    rw [List.filter_append]
    exact hstanding.trans hchunks

/-- **A read that is kept stands after the chunks that were read.** -/
theorem standing (h : ReadRun t between d es) (hx : d.session.extended = true) : ∀ p ∈ d.session.progress,
    Chunks d.session.config.chunkSize p.total headerLength (es.filter Exchange.succeeded) p.offset := by
  induction h with
  | start _ hp => exact fun p hp' => by cases hp.symm.trans hp'
  | idle _ _ ih => exact ih hx
  | @perform op d es h hkept ih =>
    obtain ⟨htranscript, hsetup, -⟩ := perform_transcript t h.reaches.sound op
    have hx' : d.session.extended = true := hsetup.extended.symm.trans hx
    intro p hp
    have hop : op ≠ .retrieve := by
      rintro rfl
      exact hkept htranscript.1
    obtain ⟨hchunks, hsame⟩ := (htranscript.furthers h.reaches.sound hx' (Or.inl hop)).standing p hp
    rw [hsetup.config]
    exact h.chunks_append (ih hx') hsame hchunks

end ReadRun

/-- A read that was given up or stands where it stood. -/
theorem Transcript.offset_of_failed {op : Operation} {r : Except Error (Option Log)} {kept : Option Progress}
    (h : Transcript s op es r kept) (hs : s.Sound) (hx : s.extended = true) (hfailed : ∀ e ∈ es, e.succeeded = false) :
    kept = none ∨ kept.map (·.offset) = s.progress.map (·.offset) := by
  by_cases hop : op = .retrieve
  · subst hop
    exact Or.inl h.1
  · exact (h.furthers hs hx (Or.inl hop)).failed hfailed

/-- A read of the log has a bounded number of commands. -/
theorem Transcript.length_le {op : Operation} {r : Except Error (Option Log)} {kept : Option Progress}
    (h : Transcript s op es r kept) (hs : s.Sound) (hx : s.extended = true)
    (hop : op = .readLog ∨ op = .readLogUnchecked) :
    es.length ≤ 1 + (s.maxLogLength - headerLength + (s.config.chunkSize - 1)) / s.config.chunkSize := by
  rcases hop with rfl | rfl
  · simp only [Transcript] at h
    split at h
    · obtain ⟨_, -, h⟩ := h
      exact (h.furthers hs hx).2
    · rw [h.2.1]
      exact Nat.zero_le _
  · obtain ⟨_, -, h⟩ := h
    exact (h.furthers hs hx).2

/-- **Every byte of a log is read once.** The commands of a read that succeeded after the header lie end to end from the
header to where the read stands, and when the read gives its log, to the end of the log. Commands that fail do not move
the read, and every call has a bounded number of them. -/
theorem chunks_read_once (t : Transport σ) (between : Dialogue σ → World σ → Prop) (d : Dialogue σ) (es : List Exchange)
    (h : ReadRun t between d es) (hx : d.session.extended = true) :
    let chunkSize := d.session.config.chunkSize
    (∀ p ∈ d.session.progress, Chunks chunkSize p.total headerLength (es.filter Exchange.succeeded) p.offset)
    ∧ ∀ (op : Operation) r d', (op.perform t).run.run d = (r, d') →
      (∀ log, r = .ok (some log) → op ≠ .retrieve ∨ d.session.progress = none →
        let read := (es ++ op.transfers t d).filter Exchange.succeeded
        ∃ total, log.header.alignedLength = some total ∧ Chunks chunkSize total headerLength read total
          ∧ read.length = (total - headerLength + (chunkSize - 1)) / chunkSize)
      ∧ ((∀ e ∈ op.exchanges t d, e.succeeded = false) →
        d'.session.progress = none ∨ d'.session.offset = d.session.offset)
      ∧ (op = .readLog ∨ op = .readLogUnchecked → (op.exchanges t d).length
          ≤ 1 + (d.session.maxLogLength - headerLength + (chunkSize - 1)) / chunkSize) := by
  intro chunkSize
  have hs := h.reaches.sound
  refine ⟨h.standing hx, fun op r d' hrun => ?_⟩
  obtain ⟨htranscript, -, -⟩ := perform_transcript t hs op
  rw [hrun] at htranscript
  refine ⟨fun log hlog hop => ?_, fun hfailed => ?_, htranscript.length_le hs hx⟩
  · subst hlog
    obtain ⟨total, htotal, hchunks, hsame⟩ := (htranscript.furthers hs hx hop).finished log rfl
    have hall := h.chunks_append (h.standing hx) hsame hchunks
    have hbegun := (alignedLength_bounds htotal).2.1
    exact ⟨total, htotal, hall, hall.length_eq hbegun d.session.chunkSize_pos rfl⟩
  · refine (htranscript.offset_of_failed hs hx hfailed).imp_right fun hsame => ?_
    have hoffset : ∀ s : Session, s.offset = (s.progress.map (·.offset)).getD 0 := fun s => by
      rw [Session.offset]
      cases s.progress <;> rfl
    rw [hoffset, hoffset, hsame]

namespace Scripted

/-- A new session that reads in chunks of 200 bytes. -/
def smallChunks : Session where
  config := { chunkSize := 200 }
  state := .notEstablished
  extended := true
  maxLogLength := 256 * 2 ^ 20
  buffer := .zeroed (max 200 headerLength)
  progress := none
  chunkSize_pos := by decide
  chunkSize_dvd := by decide

theorem smallChunks_new : Session.new true { chunkSize := 200 } = .ok smallChunks := rfl

/-- A context was established for a log of 1024 bytes. The second chunk will be cut off, and the third one refused. -/
def troubled : Dialogue Scripted :=
  ((Operation.establish.perform controller.transport).run.run
    ⟨smallChunks, ⟨{ images := [image 7], script := [.serve, .serve, .serve, .drop false, .serve, .serve,
      .refuse ⟨0x0004⟩ (by decide)] }, []⟩⟩).2

/-- The dialogue after operations. -/
def after (d : Dialogue Scripted) (ops : List Operation) : Dialogue Scripted :=
  ops.foldl (fun d op => ((op.perform controller.transport).run.run d).2) d

/-- The chunks that operations asked for. -/
def chunksAsked (d : Dialogue Scripted) : List Operation → List Exchange
  | [] => []
  | op :: ops => op.transfers controller.transport d ++ chunksAsked (after d [op]) ops

/-- Two calls that failed, with a check of the context in between. -/
theorem readRun_troubled (between : Dialogue Scripted → World Scripted → Prop) :
    ReadRun controller.transport between (after troubled [.readLog, .checkContext, .readLog])
      (chunksAsked troubled [.readLog, .checkContext, .readLog]) := by
  have hreaches : Reaches controller.transport between troubled := .perform .establish (.new smallChunks_new _)
  obtain ⟨hnone, hfirst, hchecked, hsecond⟩ : troubled.session.progress = none
      ∧ (after troubled [.readLog]).session.progress ≠ none
      ∧ (after troubled [.readLog, .checkContext]).session.progress ≠ none
      ∧ (after troubled [.readLog, .checkContext, .readLog]).session.progress ≠ none := by decide +kernel
  simp only [after, List.foldl_cons, List.foldl_nil] at hfirst hchecked hsecond
  have hrun := (((ReadRun.start hreaches hnone).perform .readLog hfirst).perform .checkContext hchecked).perform
    .readLog hsecond
  simpa only [chunksAsked, after, List.foldl_cons, List.foldl_nil, List.nil_append, List.append_nil,
    List.append_assoc] using hrun

end Scripted

/-- The read ends in the next call: three chunks were read, each once, though five were asked for. -/
theorem chunks_read_once_troubled :
    let d := Scripted.after Scripted.troubled [.readLog, .checkContext, .readLog]
    let asked := Scripted.chunksAsked Scripted.troubled [.readLog, .checkContext, .readLog]
      ++ Operation.readLogUnchecked.transfers Scripted.controller.transport d
    let read := asked.filter Exchange.succeeded
    asked.map (fun e => (Emulated.offsetOf e.command, e.command.dataLength, e.succeeded))
        = [(512, 200, true), (712, 200, false), (712, 200, true), (912, 112, false), (912, 112, true)]
      ∧ Chunks 200 1024 headerLength read 1024 ∧ read.length = 3 := by
  intro d asked read
  have hasked : asked.map (fun e => (Emulated.offsetOf e.command, e.command.dataLength, e.succeeded))
      = [(512, 200, true), (712, 200, false), (712, 200, true), (912, 112, false), (912, 112, true)] := by
    decide +kernel
  have hsetup : d.session.extended = true ∧ d.session.config.chunkSize = 200 := by decide +kernel
  have hlog : (((Operation.readLogUnchecked.perform Scripted.controller.transport).run.run d).1.toOption.bind
      (·.bind (·.header.alignedLength))) = some 1024 := by decide +kernel
  have honce := chunks_read_once Scripted.controller.transport (fun _ _ => False) d _ (Scripted.readRun_troubled _)
    hsetup.1
  rcases hrun : (Operation.readLogUnchecked.perform Scripted.controller.transport).run.run d with ⟨r, d'⟩
  rw [hrun] at hlog
  obtain e | ⟨_ | log⟩ := r
  · cases hlog
  · cases hlog
  · obtain ⟨total, htotal, hchunks, hlength⟩ := (honce.2 .readLogUnchecked _ _ hrun).1 log rfl (Or.inl (by decide))
    cases htotal.symm.trans hlog
    rw [hsetup.2] at hchunks hlength
    exact ⟨hasked, hchunks, hlength⟩

end StorageCommands.EventLog
