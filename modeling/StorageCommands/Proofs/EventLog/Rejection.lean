import StorageCommands.Proofs.EventLog.LengthLimit

/-!
# What a rejected length leaves behind

A log may be too long for two reasons. `rejected_read` says what each of them leaves behind.

- The length is beyond the limit of the session (`Session.Exceeds`). No read is kept, and the next one begins with the
  header.
- The length is within the limit, but the controller takes no offsets, and one transfer cannot hold the log
  (`Session.Stuck`). The read is kept where it stands, after its header, and can never go on: reading the log again
  fails in the same way without a command (`readLogUnchecked_stuck`), until the read is given up with its context.

`rejected_read_kept` is a session of the second kind.
-/

namespace StorageCommands.EventLog

open Nvme

variable {σ : Type}

/-! ## The next read -/

/-- A read that begins asks for the header first. -/
theorem LogReads.header_first {s : Session} {es : List Exchange} {r : Except Error Log} {kept : Option Progress}
    (h : LogReads s es r kept) (hp : s.progress = none) :
    ∃ e rest, es = e :: rest ∧ Requests e.command .read 0 headerLength := by
  cases h with
  | resumed hp' _ _ => cases hp.symm.trans hp'
  | unread _ hr _ => exact ⟨_, _, rfl, hr⟩
  | begun _ hr _ _ _ _ _ _ => exact ⟨_, _, rfl, hr⟩

/-- **A kept read that no transfer can hold** fails again, without a command. -/
theorem readLogUnchecked_stuck (t : Transport σ) {d : Dialogue σ} {p : Progress} (hp : d.session.progress = some p)
    (hx : d.session.extended = false) (hlt : p.offset < p.total) (hlong : maxShortTransfer < p.total) :
    (Operation.readLogUnchecked.perform t).run.run d = (.error (.logTooLarge p.total), d) := by
  have hwhole : Ensures (readWhole t p) d fun r d' => r = .error (.logTooLarge p.total) ∧ d' = d := by
    unfold readWhole
    rw [if_neg (Nat.not_le.2 hlt), if_pos hlong]
    exact .seq (.throw ⟨rfl, rfl⟩)
  have hread : Ensures (readLogUnchecked t) d fun r d' => r = .error (.logTooLarge p.total) ∧ d' = d := by
    refine readLogUnchecked_ensures (fun r d' => r = .ok p ∧ d' = d)
      (fun r d' => r = .error (.logTooLarge p.total) ∧ d' = d) ?_ ?_ ?_ ?_ ?_ ?_
    · intro p' hp'
      cases hp.symm.trans hp'
      exact ⟨rfl, rfl⟩
    · intro hnone
      cases hp.symm.trans hnone
    · rintro p' d₁ ⟨hp', rfl⟩
      cases hp'
      rw [if_neg (by rw [hx]; exact Bool.false_ne_true)]
      exact hwhole
    · rintro e d₁ ⟨he, -⟩
      cases he
    · rintro e d₁ ⟨he, rfl⟩
      exact ⟨congrArg Except.error (Except.error.inj he), rfl⟩
    · rintro q d₁ ⟨hq, -⟩
      cases hq
  have hperform : Ensures (Operation.readLogUnchecked.perform t) d fun r d' =>
      r = .error (.logTooLarge p.total) ∧ d' = d :=
    .log (hread.mono fun r d' ⟨hr, hd⟩ => ⟨by rw [hr]; rfl, hd⟩)
  exact Prod.ext hperform.1 hperform.2

/-- Where no read is kept, nothing is known of the log, and the next read begins with the header. -/
theorem Reaches.begins {t : Transport σ} {between : Dialogue σ → World σ → Prop} {d : Dialogue σ}
    (h : Reaches t between d) (hnone : d.session.progress = none) :
    d.session.totalLength = none ∧ d.session.totalEvents = none ∧ d.session.offset = 0
      ∧ ∃ e es, Operation.readLogUnchecked.exchanges t d = e :: es ∧ Requests e.command .read 0 headerLength := by
  obtain ⟨⟨_, -, hreads⟩, -, -⟩ := perform_transcript t h.sound .readLogUnchecked
  refine ⟨?_, ?_, ?_, hreads.header_first hnone⟩
  · rw [Session.totalLength, hnone]
    rfl
  · rw [Session.totalEvents, hnone]
    rfl
  · rw [Session.offset, hnone]
    rfl

/-- Where a read is kept that no transfer can hold, it stays after its header, and the next read fails unsent. -/
theorem Reaches.stays {t : Transport σ} {between : Dialogue σ → World σ → Prop} {d : Dialogue σ} {p : Progress}
    (h : Reaches t between d) (hp : d.session.progress = some p) (hx : d.session.extended = false)
    (hlong : maxShortTransfer < p.total) :
    d.session.totalLength = some p.total ∧ d.session.totalEvents ≠ none ∧ d.session.offset = 512
      ∧ (Operation.readLogUnchecked.perform t).run.run d = (.error (.logTooLarge p.total), d)
      ∧ Operation.readLogUnchecked.exchanges t d = [] := by
  have hlt : p.offset < p.total := (h.sound p hp).2
  refine ⟨?_, ?_, ?_, readLogUnchecked_stuck t hp hx hlt hlong, ?_⟩
  · rw [Session.totalLength, hp]
    rfl
  · rw [Session.totalEvents, hp]
    exact Option.some_ne_none _
  · rw [Session.offset, hp]
    exact h.atHeader hx p hp
  · have hrecorded := readLogUnchecked_stuck t.recording (d := d.recorded) hp hx hlt hlong
    rw [Operation.exchanges, hrecorded]
    rfl

/-! ## Rejected lengths -/

namespace Session

variable {s : Session} {h : Header} {len : Nat}

/-- A length that is found with the header leaves no doubt that the read was given up. -/
theorem Exceeds.not_within (he : s.Exceeds h len) : ¬ (len ≤ s.maxLogLength ∧ len + 512 ≤ 2 ^ 64) := by
  rintro ⟨hmax, hfit⟩
  rcases he with ⟨hnone, rfl⟩ | ⟨-, hlt⟩
  · rw [h.alignedLength_eq, ite_eq_right_iff] at hnone
    have hlong : ¬ h.roundedLength < 2 ^ 64 := fun hlt => by cases hnone hlt
    unfold Header.roundedLength at hlong
    omega
  · omega

/-- A length that is found afterwards is a length in whole units below 2^64. -/
theorem Stuck.within (hs : s.Stuck h len) : len ≤ s.maxLogLength ∧ len + 512 ≤ 2 ^ 64 := by
  refine ⟨hs.bounded, ?_⟩
  obtain ⟨rfl, hlt⟩ := Header.roundedLength_of_alignedLength hs.total
  unfold Header.roundedLength at hlt ⊢
  omega

end Session

/-- **What a rejected length leaves behind.** After a read that fails with a log that is too long, no read is kept and
the next one begins with the header, unless the controller takes no offsets and the length is within the limit. Then the
read is kept after its header, and reading the log fails again, without a command. -/
theorem rejected_read {t : Transport σ} {between : Dialogue σ → World σ → Prop} {d d' : Dialogue σ}
    (h : Reaches t between d) {op : Operation} (hop : op = .readLog ∨ op = .readLogUnchecked) {len : Nat}
    (hrun : (op.perform t).run.run d = (.error (.logTooLarge len), d')) :
    let stuck := d'.session.extended = false ∧ len ≤ d'.session.maxLogLength ∧ len + 512 ≤ 2 ^ 64
    (¬ stuck → d'.session.totalLength = none ∧ d'.session.totalEvents = none ∧ d'.session.offset = 0
        ∧ ∃ e es, Operation.readLogUnchecked.exchanges t d' = e :: es ∧ Requests e.command .read 0 headerLength)
      ∧ (stuck → d'.session.totalLength = some len ∧ d'.session.totalEvents ≠ none ∧ d'.session.offset = 512
        ∧ (Operation.readLogUnchecked.perform t).run.run d' = (.error (.logTooLarge len), d')
        ∧ Operation.readLogUnchecked.exchanges t d' = []) := by
  intro stuck
  have hreaches : Reaches t between d' := by
    have hperformed := Reaches.perform op h
    rwa [hrun] at hperformed
  have hresult := perform_result t h.sound op
  obtain ⟨-, hsetup, -⟩ := perform_transcript t h.sound op
  rw [hrun] at hresult hsetup
  have hne : op ≠ .retrieve := by rcases hop with rfl | rfl <;> decide
  cases hresult with
  | idle _ _ ha _ => exact (ha len rfl).elim
  | @read r' kept' _ hr hread hkept =>
    rw [if_neg hne] at hkept
    rw [Operation.reader_of_ne hne] at hread
    have hr' : r' = .error (.logTooLarge len) := by
      cases r' with
      | ok log => cases hr
      | error e => exact congrArg Except.error (Except.error.inj hr).symm
    obtain ⟨header, hof, hreason⟩ := hread.result.rejected len hr'
    rcases hreason with hexceeds | hstuck
    · -- the read was given up with the header
      have hnone : d'.session.progress = none := hkept.trans (hread.result.exceeds header hof len hexceeds).2
      refine ⟨fun _ => hreaches.begins hnone, fun ⟨_, hwithin⟩ => ?_⟩
      rw [hsetup.maxLogLength] at hwithin
      exact (hexceeds.not_within hwithin).elim
    · -- the read is kept after its header
      obtain ⟨-, p, hp, -, rfl⟩ := hread.result.stuck header hof len hstuck
      have hx : d'.session.extended = false := hsetup.extended.trans hstuck.extended
      refine ⟨fun hnot => (hnot ⟨hx, ?_⟩).elim, fun _ => hreaches.stays (hkept.trans hp) hx hstuck.long⟩
      rw [hsetup.maxLogLength]
      exact hstuck.within

namespace Scripted

/-- A context was established for a log of 2^40 bytes, with a controller that takes offsets. -/
def overLimit : Dialogue Scripted :=
  ((Operation.establish.perform controller.transport).run.run
    ⟨session, ⟨{ images := [(Bytes.zeros 512).overwrite 13 [0x01]] }, []⟩⟩).2

theorem reaches_overLimit (between : Dialogue Scripted → World Scripted → Prop) :
    Reaches controller.transport between overLimit :=
  .perform .establish (.new session_new _)

end Scripted

open Scripted in
/-- A log of 2^40 bytes is rejected, and no read is kept. -/
theorem rejected_read_overLimit : ∃ d, (Operation.readLog.perform controller.transport).run.run overLimit
      = (.error (.logTooLarge (2 ^ 40)), d) ∧ d.session.totalLength = none ∧ d.session.offset = 0
    ∧ ∃ e es, Operation.readLogUnchecked.exchanges controller.transport d = e :: es
      ∧ Requests e.command .read 0 headerLength := by
  have hread : ((Operation.readLog.perform controller.transport).run.run overLimit).1 = .error (.logTooLarge (2 ^ 40))
      ∧ ((Operation.readLog.perform controller.transport).run.run overLimit).2.session.extended = true := by
    decide +kernel
  rcases hrun : (Operation.readLog.perform controller.transport).run.run overLimit with ⟨r, d⟩
  rw [hrun] at hread
  obtain ⟨rfl, hx⟩ := hread
  obtain ⟨hidle, -⟩ := rejected_read (reaches_overLimit fun _ _ => False) (Or.inl rfl) hrun
  obtain ⟨htotal, -, hoffset, hnext⟩ := hidle fun hstuck => by cases hx.symm.trans hstuck.1
  exact ⟨d, rfl, htotal, hoffset, hnext⟩

open Scripted in
/-- **A rejected read is kept**: the log is within the limit, but no transfer can hold it. -/
theorem rejected_read_kept : ∃ d len d', Reaches controller.transport (fun _ _ => False) d
    ∧ (Operation.readLog.perform controller.transport).run.run d = (.error (.logTooLarge len), d')
    ∧ ¬ (d'.session.totalLength = none ∧ d'.session.totalEvents = none ∧ d'.session.offset = 0) := by
  have hread : ((Operation.readLog.perform controller.transport).run.run farAway).1 = .error (.logTooLarge 300032)
      ∧ ((Operation.readLog.perform controller.transport).run.run farAway).2.session.offset ≠ 0 := by decide +kernel
  rcases hrun : (Operation.readLog.perform controller.transport).run.run farAway with ⟨r, d'⟩
  rw [hrun] at hread
  obtain ⟨rfl, hoffset⟩ := hread
  exact ⟨farAway, 300032, d', reaches_farAway _, hrun, fun hidle => hoffset hidle.2.2⟩

end StorageCommands.EventLog
