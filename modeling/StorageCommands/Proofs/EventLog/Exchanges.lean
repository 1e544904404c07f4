import StorageCommands.Proofs.EventLog.Operations
import StorageCommands.Proofs.Nvme.Recording

/-!
# What an operation puts on the transport

`Operation.exchanges` lists the commands that an operation puts on the transport, with their answers. They are recorded
while the operation runs (`Transport.recording`). Every step of a session with a recording transport does what it does
with the transport itself, but for the record (`Erases`), and so does every operation: `perform_recording`.
-/

namespace StorageCommands.EventLog

open Nvme Trace

variable {σ α β : Type}

/-- A dialogue without the record. -/
def Dialogue.plain (d : Dialogue (Recorded σ)) : Dialogue σ := ⟨d.session, d.world.plain⟩

/-- A dialogue with an empty record. -/
def Dialogue.recorded (d : Dialogue σ) : Dialogue (Recorded σ) := ⟨d.session, d.world.recorded []⟩

/-- The exchanges on the record. -/
def Dialogue.exchanges (d : Dialogue (Recorded σ)) : List Exchange := d.world.device.exchanges

/-- Without the record, the first action does what the second one does. -/
structure Erases (x : SessionAction (Recorded σ) α) (y : SessionAction σ α) : Prop where
  run : ∀ d, y.run.run d.plain = ((x.run.run d).1, (x.run.run d).2.plain)

namespace Erases

/-! ## Rules -/

theorem pure (a : α) : Erases (Pure.pure a : SessionAction (Recorded σ) α) (Pure.pure a) := ⟨fun _ => rfl⟩

theorem throw (e : Error) : Erases (throw e : SessionAction (Recorded σ) α) (throw e) := ⟨fun _ => rfl⟩

theorem bind {x : SessionAction (Recorded σ) β} {y : SessionAction σ β} {f : β → SessionAction (Recorded σ) α}
    {g : β → SessionAction σ α} (h : Erases x y) (hf : ∀ b, Erases (f b) (g b)) : Erases (x >>= f) (y >>= g) := by
  refine ⟨fun d => ?_⟩
  change (ExceptT.bindCont g (y.run.run d.plain).1).run (y.run.run d.plain).2
    = (((ExceptT.bindCont f (x.run.run d).1).run (x.run.run d).2).1,
      ((ExceptT.bindCont f (x.run.run d).1).run (x.run.run d).2).2.plain)
  rw [h.run d]
  generalize x.run.run d = p
  obtain ⟨r, d'⟩ := p
  cases r with
  | error e => rfl
  | ok b => exact (hf b).run d'

/-- What follows may use the dialogue, as long as it does not use the record. -/
theorem get {f : Dialogue (Recorded σ) → SessionAction (Recorded σ) α} {g : Dialogue σ → SessionAction σ α}
    (h : ∀ d, Erases (f d) (g d.plain)) : Erases (MonadState.get >>= f) (MonadState.get >>= g) :=
  ⟨fun d => (h d).run d⟩

theorem modify {f : Dialogue (Recorded σ) → Dialogue (Recorded σ)} {g : Dialogue σ → Dialogue σ}
    (h : ∀ d, g d.plain = (f d).plain) :
    Erases (modify f : SessionAction (Recorded σ) PUnit) (modify g) :=
  ⟨fun d => congrArg (fun d => (Except.ok PUnit.unit, d)) (h d)⟩

theorem attempt {x : SessionAction (Recorded σ) α} {y : SessionAction σ α} (h : Erases x y) :
    Erases (attempt x) (attempt y) := by
  refine ⟨fun d => ?_⟩
  change (Except.ok (y.run.run d.plain).1, (y.run.run d.plain).2) = _
  rw [h.run d]
  rfl

theorem ite {p : Prop} [Decidable p] {x x' : SessionAction (Recorded σ) α} {y y' : SessionAction σ α}
    (h : Erases x y) (h' : Erases x' y') : Erases (if p then x else x') (if p then y else y') := by
  split
  · exact h
  · exact h'

/-! ## Steps of a session -/

theorem note (level : Level) (message : String) (values : List (String × String)) :
    Erases (σ := σ) (note level message values) (note level message values) :=
  .modify fun _ => rfl

theorem update (f : Session → Session) : Erases (σ := σ) (update f) (update f) := .modify fun _ => rfl

theorem dropProgress : Erases (σ := σ) dropProgress dropProgress := .update _

theorem keepProgress (p : Progress) : Erases (σ := σ) (keepProgress p) (keepProgress p) := .update _

theorem setState (state : ContextState) : Erases (σ := σ) (setState state) (setState state) :=
  .get fun _ => .ite (.bind (.note ..) fun _ => .update _) (.update _)

variable (t : Transport σ)

/-- The step that talks to the device. -/
theorem getLog (action : ContextAction) (offset len : Nat) :
    Erases (getLog t.recording action offset len) (getLog t action offset len) := by
  refine .get fun d => .bind (.update _) fun _ => ?_
  rw [show d.plain = ⟨d.session, d.world.plain⟩ from rfl]
  cases hc : d.session.command action offset len (d.session.lend len) with
  | error e =>
    unfold Session.lend at hc
    simp only [hc]
    exact .throw _
  | ok command =>
    unfold Session.lend at hc
    simp only [hc]
    refine .get fun d' => ?_
    have hplain := issue_recording t command d'.world
    rcases hi : issue t.recording command d'.world with ⟨result, command', w⟩
    rw [hi] at hplain
    have hplain' : issue t command d'.plain.world = (result, command', w.plain) := hplain
    simp only [hplain']
    refine .bind (.modify fun _ => rfl) fun _ => ?_
    cases result with
    | ok status => exact .bind (.note ..) fun _ => .pure _
    | error e => exact .bind (.setState _) fun _ => .throw _

theorem checkRead (status : StatusWord) (offset : Nat) :
    Erases (σ := σ) (checkRead status offset) (checkRead status offset) := by
  refine .ite (.pure _) (.bind (.pure _) fun _ => .ite (.bind (.setState _) fun _ => .throw _)
    (.bind (.pure _) fun _ => ?_))
  exact .ite (.bind (.note ..) fun _ => .throw _) (.bind (.note ..) fun _ => .throw _)

/-- A read that is judged, and what follows it. -/
theorem judged {offset len : Nat} {x : SessionAction (Recorded σ) α} {y : SessionAction σ α} (h : Erases x y) :
    Erases (do
      let status ← EventLog.getLog t.recording .read offset len
      EventLog.checkRead status offset
      x) (do
      let status ← EventLog.getLog t .read offset len
      EventLog.checkRead status offset
      y) :=
  .bind (.getLog t ..) fun _ => .bind (.checkRead ..) fun _ => h

/-! ## Reading the log -/

theorem readHeader : Erases (readHeader t.recording) (readHeader t) := by
  refine .judged t (.bind (.setState _) fun _ => .get fun d => ?_)
  simp only [Dialogue.plain]
  cases Header.decode (d.session.buffer.bytes.take headerLength) with
  | error e => exact .throw _
  | ok header =>
    dsimp only
    cases header.alignedLength with
    | none => exact .bind (.note ..) fun _ => .throw _
    | some total =>
      exact .ite (.bind (.note ..) fun _ => .throw _)
        (.bind (.note ..) fun _ => .bind (.keepProgress _) fun _ => .pure _)

theorem readWhole (p : Progress) : Erases (readWhole t.recording p) (readWhole t p) := by
  refine .ite (.pure _) (.bind (.pure _) fun _ => .ite (.bind (.throw _) fun _ => ?_) ?_)
  · exact .judged t (.get fun _ => .pure _)
  · exact .judged t (.get fun _ => .pure _)

theorem readChunks {chunkSize : Nat} (pos : 0 < chunkSize) (p : Progress) :
    Erases (readChunks t.recording chunkSize pos p) (readChunks t chunkSize pos p) := by
  induction hn : p.total - p.offset using Nat.strongRecOn generalizing p with
  | ind n ih =>
    rw [EventLog.readChunks, EventLog.readChunks]
    by_cases hlt : p.offset < p.total
    · rw [dif_pos hlt, dif_pos hlt]
      refine .judged t (.get fun d => .bind (.keepProgress _) fun _ => .bind (.note ..) fun _ => ?_)
      refine ih _ ?_ _ rfl
      have hlen := le_wholeDwords (min (p.total - p.offset) chunkSize)
      dsimp only
      omega
    · rw [dif_neg hlt, dif_neg hlt]
      exact .pure _

theorem readLogUnchecked : Erases (readLogUnchecked t.recording) (readLogUnchecked t) := by
  have hend : ∀ p : Progress, Erases (σ := σ) (do
      EventLog.dropProgress
      EventLog.note .debug "read persistent event log"
        [("len", toString p.total), ("events", toString p.header.totalEvents)]
      return (⟨p.header, p.data.take p.header.totalLogLength.toNat⟩ : Log)) (do
      EventLog.dropProgress
      EventLog.note .debug "read persistent event log"
        [("len", toString p.total), ("events", toString p.header.totalEvents)]
      return ⟨p.header, p.data.take p.header.totalLogLength.toNat⟩) :=
    fun p => .bind .dropProgress fun _ => .bind (.note ..) fun _ => .pure _
  refine .get fun d => ?_
  simp only [Dialogue.plain]
  cases d.session.progress with
  | some p =>
    refine .bind (.pure _) fun p => .get fun d => ?_
    exact .ite (.bind (.readChunks t ..) hend) (.bind (.readWhole t _) hend)
  | none =>
    refine .bind (.readHeader t) fun p => .get fun d => ?_
    exact .ite (.bind (.readChunks t ..) hend) (.bind (.readWhole t _) hend)

theorem readLog : Erases (readLog t.recording) (readLog t) := by
  refine .get fun d => ?_
  simp only [Dialogue.plain]
  cases d.session.state with
  | established => exact .readLogUnchecked t
  | notEstablished => exact .throw _
  | unknown => exact .throw _

/-! ## Operations -/

theorem establish : Erases (establish t.recording) (establish t) := by
  refine .bind .dropProgress fun _ => .bind (.getLog t ..) fun _ => .ite (.setState _) (.ite ?_ ?_)
  · exact .bind (.note ..) fun _ => .setState _
  · exact .bind (.setState _) fun _ => .throw _

theorem release : Erases (release t.recording) (release t) := by
  refine .bind (.attempt (.getLog t ..)) fun r => .bind (.setState _) fun _ => ?_
  cases r with
  | error e => exact .throw _
  | ok status => exact .note ..

theorem checkContext : Erases (checkContext t.recording) (checkContext t) := by
  refine .bind (.getLog t ..) fun _ => ?_
  refine .ite (.bind (.pure _) fun _ => ?_) (.ite (.bind (.pure _) fun _ => ?_)
    (.bind (.note ..) fun _ => .bind (.pure _) fun _ => ?_))
  · exact .bind (.setState _) fun _ => .pure _
  · exact .bind (.setState _) fun _ => .pure _
  · exact .bind (.setState _) fun _ => .pure _

theorem retrieve : Erases (retrieve t.recording) (retrieve t) := by
  refine .bind (.establish t) fun _ => .bind (.attempt (.readLog t)) fun log =>
    .bind (.attempt (.release t)) fun r => ?_
  cases r with
  | error e =>
    refine .bind (.note ..) fun _ => ?_
    cases log with
    | error e => exact .throw _
    | ok log => exact .pure _
  | ok _ =>
    cases log with
    | error e => exact .throw _
    | ok log => exact .pure _

/-- **Every operation** does with a recording transport what it does with the transport. -/
theorem perform (op : Operation) : Erases (op.perform t.recording) (op.perform t) := by
  cases op with
  | establish => exact .bind (.establish t) fun _ => .pure _
  | readLog => exact .bind (.readLog t) fun _ => .pure _
  | readLogUnchecked => exact .bind (.readLogUnchecked t) fun _ => .pure _
  | checkContext => exact .bind (.checkContext t) fun _ => .pure _
  | release => exact .bind (.release t) fun _ => .pure _
  | retrieve => exact .bind (.retrieve t) fun _ => .pure _

end Erases

/-- The exchanges of an operation, the earliest first. -/
def Operation.exchanges (t : Transport σ) (op : Operation) (d : Dialogue σ) : List Exchange :=
  ((op.perform t.recording).run.run d.recorded).2.exchanges

/-- **The record changes nothing**: an operation has its result and leaves its dialogue as without it. -/
theorem perform_recording (t : Transport σ) (op : Operation) (d : Dialogue σ) :
    (op.perform t).run.run d = (((op.perform t.recording).run.run d.recorded).1,
      ((op.perform t.recording).run.run d.recorded).2.plain) :=
  (Erases.perform t op).run d.recorded

end StorageCommands.EventLog
