import StorageCommands.Proofs.EventLog.KeptRead
import StorageCommands.Proofs.EventLog.LengthLimit

/-!
# The invariant of a session

A read that is kept is what the session says of it (`Progress.Kept`): how long its log is, where it stands, and that it
holds the bytes before that place, which begin with its header. This holds in every dialogue that operations lead to,
whatever the device answers (`Reaches.kept`), as it follows from what every operation keeps (`Reaches.sound`,
`Reaches.keeps`). So a log that any operation gives has as many bytes as its header reports: `session_invariant`.
-/

namespace StorageCommands.EventLog

open Nvme

variable {σ : Type} {t : Transport σ} {between : Dialogue σ → World σ → Prop} {d : Dialogue σ}

/-- A read that a session keeps. -/
structure Progress.Kept (p : Progress) (s : Session) : Prop where
  state : s.state ≠ .notEstablished
  total_mod : p.total % 512 = 0
  le_total : 512 ≤ p.total
  total_le : p.total ≤ s.maxLogLength
  offset_mod : p.offset % 4 = 0
  le_offset : 512 ≤ p.offset
  offset_lt : p.offset < p.total
  length_data : p.data.length = p.offset
  header : Header.decode (p.data.take 512) = .ok p.header
  total : p.header.alignedLength = some p.total

/-- **Every read that is kept** is what the session says of it. -/
theorem Reaches.kept (h : Reaches t between d) : ∀ p ∈ d.session.progress, p.Kept d.session := by
  intro p hp
  obtain ⟨hsound, hlt⟩ := h.sound p hp
  obtain ⟨hopens, hstate⟩ := h.keeps p hp
  obtain ⟨hrounded, -⟩ := Header.roundedLength_of_alignedLength hsound.total
  exact {
    state := hstate
    total_mod := by rw [← hrounded, Header.roundedLength, Nat.mul_mod_right]
    le_total := (alignedLength_bounds hsound.total).2.1
    total_le := hsound.bounded
    offset_mod := hsound.aligned
    le_offset := hsound.begun
    offset_lt := hlt
    length_data := hsound.data
    header := (Header.decode_take (Nat.le_refl headerLength)).trans hopens.header
    total := hsound.total }

/-- **Every log that is given** has as many bytes as its header reports. -/
theorem Reaches.length_log (h : Reaches t between d) (op : Operation) {log : Log} {d' : Dialogue σ}
    (hrun : (op.perform t).run.run d = (.ok (some log), d')) : log.bytes.length = log.header.totalLogLength.toNat := by
  have hresult := perform_result t h.sound op
  rw [hrun] at hresult
  cases hresult with
  | idle _ hr _ _ => exact (hr log rfl).elim
  | @read r' _ _ hr hread _ =>
    cases r' with
    | error e => cases hr
    | ok log' =>
      cases hr
      exact hread.result.whole log rfl

/-- **The invariant of a session.** In every dialogue that operations lead to, a read that is kept is what the session
says of it, and every operation that gives a log gives as many bytes as the header of the log reports. -/
theorem session_invariant (t : Transport σ) (between : Dialogue σ → World σ → Prop) (d : Dialogue σ)
    (h : Reaches t between d) :
    (∀ p ∈ d.session.progress, p.Kept d.session)
      ∧ ∀ (op : Operation) log d', (op.perform t).run.run d = (.ok (some log), d') →
        log.bytes.length = log.header.totalLogLength.toNat :=
  ⟨h.kept, fun op _ _ hrun => h.length_log op hrun⟩

open Scripted in
/-- A read that was cut off after the header is kept, and gives a log of 1000 bytes when it goes on. -/
theorem session_invariant_interrupted : (∃ p ∈ interrupted.session.progress, p.Kept interrupted.session)
    ∧ ∃ log d, (Operation.readLogUnchecked.perform controller.transport).run.run interrupted = (.ok (some log), d)
      ∧ log.header.totalLogLength = 1000 ∧ log.bytes.length = log.header.totalLogLength.toNat := by
  have hread : interrupted.session.progress ≠ none
      ∧ ((Operation.readLogUnchecked.perform controller.transport).run.run interrupted).1.toOption.join.any
        (fun log => decide (log.header.totalLogLength = 1000)) = true := by decide +kernel
  obtain ⟨hkept, hlog⟩ := hread
  obtain ⟨p, hp⟩ := Option.ne_none_iff_exists'.1 hkept
  obtain ⟨log, d, hrun, hreported⟩ := exists_log hlog
  obtain ⟨hinvariant, hlength⟩ :=
    session_invariant controller.transport (fun _ _ => False) interrupted (reaches_interrupted _)
  exact ⟨⟨p, hp, hinvariant p hp⟩, log, d, hrun, of_decide_eq_true hreported, hlength .readLogUnchecked log d hrun⟩

end StorageCommands.EventLog
