import StorageCommands.Proofs.EventLog.Conformance

/-!
# Sessions without extended support

A controller without extended support knows neither offsets nor the high half of the count, and a session for it asks
for nothing that needs them (`Short`): every command begins at the start of the log and transfers at most 2^18 bytes, so
that the low half of the count says how long the transfer is.

Such a session reads the header, and then the whole log or nothing (`ByHeader`). A read that is kept has its header and
nothing else (`Session.AtHeader`), which every operation keeps. So no command goes beyond the header of a log of more
than 2^18 bytes. `short_transfers` says all this of every operation, whatever the device answers.
-/

namespace StorageCommands.EventLog

open Nvme

variable {σ : Type}

/-! ## Commands -/

/-- The command begins at the start of the log, and the low half of the count says how long its transfer is. -/
structure Short (d : CommandDescriptor) : Prop where
  cdw11 : d.words.cdw11 = 0
  cdw12 : d.words.cdw12 = 0
  cdw13 : d.words.cdw13 = 0
  count : (d.words.cdw10.toNat / 2 ^ 16 + 1) * 4 = d.dataLength
  dataLength : d.dataLength ≤ 2 ^ 18

/-- A command of a session without an offset and with a transfer that the low half of the count has room for. -/
theorem Requests.short {d : CommandDescriptor} {action : ContextAction} {len : Nat} (h : Requests d action 0 len)
    (hlen : len ≤ maxShortTransfer) : Short d := by
  have hrequest := d.logPageRequest_eq.symm.trans h.request
  simp only [Except.ok.injEq, ContextAction.request, LogPageRequest.mk.injEq] at hrequest
  obtain ⟨-, -, -, hcount, hidentifier, hoffset, -, -, -⟩ := hrequest
  have hlength : (len / 4 - 1 + 1) * 4 = d.dataLength := h.count
  have hbound : len ≤ 2 ^ 18 := hlen
  obtain ⟨hcdw12, hcdw13⟩ : d.words.cdw12.toNat = 0 ∧ d.words.cdw13.toNat = 0 := by omega
  have hcdw10 := d.words.cdw10.toNat_lt
  have hcdw11 : d.words.cdw11.toNat = 0 := by
    have := d.words.cdw11.toNat_lt
    omega
  refine ⟨UInt32.toNat_inj.1 hcdw11, UInt32.toNat_inj.1 hcdw12, UInt32.toNat_inj.1 hcdw13, by omega, ?_⟩
  rw [h.dataLength]
  exact hbound

/-! ## Whole logs -/

/-- Every command transfers no more than the header, or the whole log of the header that is known then: the one that the
command before it received, and at first the one of the read that has been kept. -/
inductive ByHeader : Option Header → List Exchange → Prop
  | nil (known : Option Header) : ByHeader known []
  | cons {known : Option Header} {e : Exchange} {es : List Exchange}
      (he : e.command.dataLength = headerLength
        ∨ ∃ header ∈ known, header.alignedLength = some e.command.dataLength ∧ e.command.dataLength ≤ 2 ^ 18)
      (h : ByHeader (Header.decode e.received).toOption es) : ByHeader known (e :: es)

namespace ByHeader

variable {known : Option Header} {es : List Exchange}

theorem singleton {e : Exchange} (he : e.command.dataLength = headerLength) : ByHeader known [e] :=
  .cons (Or.inl he) (.nil _)

/-- A transfer of the header does not depend on what is known. -/
theorem concat (h : ByHeader known es) {e : Exchange} (he : e.command.dataLength = headerLength) :
    ByHeader known (es ++ [e]) := by
  induction h with
  | nil _ => exact singleton he
  | cons hx _ ih => exact .cons hx ih

/-- Where no header is known, only a header is transferred at first. -/
theorem of_none (h : ByHeader none es) (known : Option Header) : ByHeader known es := by
  cases h with
  | nil _ => exact .nil _
  | cons he h =>
    obtain hlength | ⟨_, hknown, -⟩ := he
    · exact .cons (Or.inl hlength) h
    · cases hknown

end ByHeader

/-- A read that is kept has its header and nothing else. -/
def Session.AtHeader (s : Session) : Prop := ∀ p ∈ s.progress, p.offset = headerLength

theorem Session.AtHeader.of_none {s : Session} (h : s.progress = none) : s.AtHeader := by
  intro p hp
  rw [h] at hp
  cases hp

/-! ## Reading the log -/

namespace Rest

variable {s : Session} {total offset stop : Nat} {es : List Exchange}

/-- The rest of a log is read by one command for all of the log, or not at all. -/
theorem short (h : Rest s total offset es stop) (hx : s.extended = false) :
    es = [] ∨ ∃ e, es = [e] ∧ total ≤ maxShortTransfer ∧ Requests e.command .read 0 total := by
  cases h with
  | chunks hx' _ | failed hx' _ _ _ _ | unsent hx' _ _ _ => cases hx.symm.trans hx'
  | header _ _ | refused _ _ _ => exact Or.inl rfl
  | whole _ _ hle hr => exact Or.inr ⟨_, rfl, hle, hr⟩

/-- A read that does not come to the end stays where it was. -/
theorem stays (h : Rest s total offset es stop) (hx : s.extended = false) (hlt : stop < total) : stop = offset := by
  cases h with
  | chunks hx' _ | failed hx' _ _ _ _ | unsent hx' _ _ _ => cases hx.symm.trans hx'
  | header _ _ => omega
  | refused _ _ _ => rfl
  | whole _ _ _ _ =>
    split at hlt
    · omega
    · rw [if_neg ‹_›]

/-- A log that is read to the end is its header or a short one. -/
theorem total_le (h : Rest s total offset es stop) (hx : s.extended = false) (hoffset : offset = headerLength)
    (hstop : stop = total) : total ≤ maxShortTransfer := by
  cases h with
  | chunks hx' _ | failed hx' _ _ _ _ | unsent hx' _ _ _ => cases hx.symm.trans hx'
  | header _ htotal =>
    rw [htotal, hoffset]
    decide
  | refused _ hlt _ => omega
  | whole _ _ hle _ => exact hle

end Rest

/-- What a read comes to: one that is kept has its header and nothing else, and a log that was read is short. -/
structure Outcome (r : Except Error (Option Log)) (kept : Option Progress) : Prop where
  atHeader : ∀ p ∈ kept, p.offset = headerLength
  short : ∀ log, r = .ok (some log) → ∃ total ≤ 2 ^ 18, log.header.alignedLength = some total

theorem NoLog.outcome {r : Except Error (Option Log)} {kept : Option Progress} (h : NoLog r)
    (hkept : ∀ p ∈ kept, p.offset = headerLength) : Outcome r kept :=
  ⟨hkept, fun log hr => (h log hr).elim⟩

theorem NoLog.outcome_none {r : Except Error (Option Log)} (h : NoLog r) : Outcome r none :=
  h.outcome fun _ hp => by cases hp

theorem Ends.outcome {s : Session} {p : Progress} {es : List Exchange} {stop : Nat} {r : Except Error Log}
    {kept : Option Progress} (he : Ends p stop r kept) (h : Rest s p.total headerLength es stop)
    (hx : s.extended = false) (ht : p.header.alignedLength = some p.total) : Outcome (r.map some) kept := by
  cases he with
  | finished hstop hlog =>
    refine ⟨fun _ hp => (by cases hp), fun log hr => ?_⟩
    cases hr
    exact ⟨p.total, h.total_le hx rfl hstop, by rw [hlog, ht]⟩
  | failed hstop hkept =>
    refine (noLog_error _).outcome fun p' hp' => ?_
    obtain ⟨-, -, hoffset⟩ := hkept p' hp'
    exact hoffset.trans (h.stays hx hstop)

/-- The commands that read the rest of a log. -/
theorem Rest.byHeader {s : Session} {total offset stop : Nat} {es : List Exchange} {header : Header}
    (h : Rest s total offset es stop) (hx : s.extended = false) (ht : header.alignedLength = some total) :
    (∀ e ∈ es, Short e.command) ∧ ByHeader (some header) es := by
  obtain rfl | ⟨e, rfl, hle, hr⟩ := h.short hx
  · exact ⟨List.forall_mem_nil _, .nil _⟩
  · refine ⟨List.forall_mem_singleton.2 (hr.short hle), .cons (Or.inr ⟨header, rfl, ?_, ?_⟩) (.nil _)⟩
    · rw [hr.dataLength, ht]
    · rw [hr.dataLength]
      exact hle

/-- Transfers of the header. -/
theorem Requests.short_header {d : CommandDescriptor} {action : ContextAction}
    (h : Requests d action 0 headerLength) : Short d := h.short (by decide)

/-- **Reading the log.** -/
theorem LogReads.short {s : Session} {es : List Exchange} {r : Except Error Log} {kept : Option Progress}
    (h : LogReads s es r kept) (hx : s.extended = false) (hs : s.AtHeader)
    (ht : ∀ p ∈ s.progress, p.header.alignedLength = some p.total) :
    (∀ e ∈ es, Short e.command) ∧ ByHeader (s.progress.map Progress.header) es ∧ Outcome (r.map some) kept := by
  cases h with
  | @resumed p es stop r kept hp h he =>
    have htotal := ht p hp
    rw [hs p hp] at h
    obtain ⟨hshort, hheader⟩ := h.byHeader hx htotal
    rw [hp]
    exact ⟨hshort, hheader, he.outcome h hx htotal⟩
  | @unread e err hp hr hu =>
    exact ⟨List.forall_mem_singleton.2 hr.short_header, .singleton hr.dataLength, (noLog_error _).outcome_none⟩
  | @begun e p es stop r kept hp hr hs' hh ht' hl h he =>
    obtain ⟨hshort, hheader⟩ := h.byHeader hx ht'
    refine ⟨List.forall_mem_cons.2 ⟨hr.short_header, hshort⟩, .cons (Or.inl hr.dataLength) ?_, he.outcome h hx ht'⟩
    rw [hh]
    exact hheader

/-! ## Operations -/

/-- **Every operation** of a session without extended support. -/
theorem Transcript.short {s : Session} {op : Operation} {es : List Exchange} {r : Except Error (Option Log)}
    {kept : Option Progress} (h : Transcript s op es r kept) (hx : s.extended = false) (hs : s.AtHeader)
    (ht : ∀ p ∈ s.progress, p.header.alignedLength = some p.total) :
    (∀ e ∈ es, Short e.command) ∧ ByHeader (s.progress.map Progress.header) es ∧ Outcome r kept := by
  have hone {e : Exchange} {action : ContextAction} (hr : Requests e.command action 0 headerLength) :
      (∀ x ∈ [e], Short x.command) ∧ ByHeader (s.progress.map Progress.header) [e] :=
    ⟨List.forall_mem_singleton.2 hr.short_header, .singleton hr.dataLength⟩
  cases op with
  | establish | release =>
    obtain ⟨hr, rfl, e, rfl, hrequests⟩ := h
    obtain ⟨hshort, hheader⟩ := hone hrequests
    exact ⟨hshort, hheader, hr.outcome_none⟩
  | checkContext =>
    obtain ⟨hr, hkept, e, rfl, hrequests⟩ := h
    obtain ⟨hshort, hheader⟩ := hone hrequests
    refine ⟨hshort, hheader, ?_⟩
    rcases hkept with rfl | rfl
    · exact hr.outcome hs
    · exact hr.outcome_none
  | readLogUnchecked =>
    obtain ⟨r, rfl, h⟩ := h
    exact h.short hx hs ht
  | readLog =>
    simp only [Transcript] at h
    split at h
    · obtain ⟨r, rfl, h⟩ := h
      exact h.short hx hs ht
    · obtain ⟨rfl, rfl, e, rfl⟩ := h
      exact ⟨List.forall_mem_nil _, .nil _, (noLog_error _).outcome hs⟩
  | retrieve =>
    obtain ⟨rfl, made, hmade, ⟨rfl, e, rfl⟩ | ⟨reads, released, r, kept, rfl, rfl, h, hreleased⟩⟩ := h
    · obtain ⟨hshort, hheader⟩ := hone hmade
      exact ⟨hshort, hheader, (noLog_error _).outcome_none⟩
    · obtain ⟨hshort, hheader, houtcome⟩ := h.short hx (.of_none rfl) fun _ hp => by cases hp
      refine ⟨?_, .cons (Or.inl hmade.dataLength) ((hheader.of_none _).concat hreleased.dataLength),
        fun _ hp => (by cases hp), houtcome.short⟩
      refine List.forall_mem_append.2 ⟨List.forall_mem_cons.2 ⟨hmade.short_header, hshort⟩, ?_⟩
      exact List.forall_mem_singleton.2 hreleased.short_header

/-! ## Runs -/

/-- The reads that operations keep without extended support have their header and nothing else. -/
theorem Reaches.atHeader {t : Transport σ} {between : Dialogue σ → World σ → Prop} {d : Dialogue σ}
    (h : Reaches t between d) (hx : d.session.extended = false) : d.session.AtHeader := by
  induction h with
  | new h _ => exact .of_none (Session.fresh_new h).progress
  | probe h => exact .of_none (fresh_probe h).progress
  | perform op h ih =>
    obtain ⟨htranscript, hsetup, -⟩ := perform_transcript t h.sound op
    have hx' := hsetup.extended.symm.trans hx
    exact (htranscript.short hx' (ih hx') fun p hp => (h.sound p hp).1.total).2.2.atHeader
  | idle _ _ ih => exact ih hx

/-- **Sessions without extended support** put no command on the transport that has an offset or needs the high half of
the count, and none that goes beyond the header of a log of more than 2^18 bytes. A read that is kept has its header and
nothing else, and every log that is read is short. The session stays without extended support. -/
theorem short_transfers (t : Transport σ) (between : Dialogue σ → World σ → Prop) (d : Dialogue σ)
    (h : Reaches t between d) (hx : d.session.extended = false) (op : Operation) :
    (∀ e ∈ op.exchanges t d, Short e.command)
      ∧ ByHeader (d.session.progress.map Progress.header) (op.exchanges t d)
      ∧ Outcome ((op.perform t).run.run d).1 ((op.perform t).run.run d).2.session.progress
      ∧ ((op.perform t).run.run d).2.session.extended = false := by
  obtain ⟨htranscript, hsetup, -⟩ := perform_transcript t h.sound op
  obtain ⟨hshort, hheader, houtcome⟩ := htranscript.short hx (h.atHeader hx) fun p hp => (h.sound p hp).1.total
  exact ⟨hshort, hheader, houtcome, hsetup.extended.trans hx⟩

/-- A read that was cut off after the header goes on with a transfer of the whole log. -/
theorem short_transfers_interrupted :
    Scripted.interruptedWhole.session.extended = false
      ∧ (Operation.readLogUnchecked.exchanges Scripted.controller.transport Scripted.interruptedWhole).map
        (fun e => (Emulated.offsetOf e.command, e.command.dataLength)) = [(0, 1024)]
      ∧ (∀ e ∈ Operation.readLogUnchecked.exchanges Scripted.controller.transport Scripted.interruptedWhole,
        Short e.command)
      ∧ ByHeader (Scripted.interruptedWhole.session.progress.map Progress.header)
        (Operation.readLogUnchecked.exchanges Scripted.controller.transport Scripted.interruptedWhole) := by
  have hx : Scripted.interruptedWhole.session.extended = false := by decide +kernel
  have hexchanges : (Operation.readLogUnchecked.exchanges Scripted.controller.transport Scripted.interruptedWhole).map
      (fun e => (Emulated.offsetOf e.command, e.command.dataLength)) = [(0, 1024)] := by decide +kernel
  obtain ⟨hshort, hheader, -⟩ := short_transfers Scripted.controller.transport (fun _ _ => False)
    Scripted.interruptedWhole (Scripted.reaches_interruptedWhole _) hx .readLogUnchecked
  exact ⟨hx, hexchanges, hshort, hheader⟩

end StorageCommands.EventLog
