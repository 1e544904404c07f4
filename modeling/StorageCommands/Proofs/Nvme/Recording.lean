import StorageCommands.Proofs.Nvme.Delivery

/-!
# What is put on a transport

`Transport.recording` is a transport that keeps a record of its exchanges: the commands that it was given, each with its
answer. The record changes nothing else: issuing a command on the recording transport is issuing it on the transport
itself (`issue_recording`). A command that has not been executed adds one exchange to the record, which says what came
of it (`issue_exchange`); a command that has a completion adds none (`issue_completed`).
-/

namespace StorageCommands.Nvme

variable {σ : Type}

/-! ## Exchanges -/

/-- A command that a transport was given, and what the transport answered. -/
structure Exchange where
  command : CommandDescriptor
  answer : Answer

namespace Exchange

/-- The command as the transport left it. -/
def outcome (e : Exchange) : CommandDescriptor := e.command.afterAll e.answer.effects

/-- The status with which the command was completed, unless it was not delivered. -/
def status? (e : Exchange) : Option StatusWord :=
  match e.answer.result with
  | .ok () => e.outcome.completion.map Completion.status
  | .error _ => none

/-- Whether the command was delivered and completed with success. -/
def succeeded (e : Exchange) : Bool := e.status?.any StatusWord.isSuccess

/-- What the transfer window holds afterwards. -/
def received (e : Exchange) : Bytes := e.outcome.data.getD []

theorem succeeded_of_status {e : Exchange} {status : StatusWord} (h : e.status? = some status) :
    e.succeeded = status.isSuccess := by
  rw [succeeded, h, Option.any_some]

theorem succeeded_of_none {e : Exchange} (h : e.status? = none) : e.succeeded = false := by
  rw [succeeded, h, Option.any_none]

end Exchange

/-! ## Recording -/

/-- A device, and the exchanges with it, the earliest first. -/
structure Recorded (σ : Type) where
  device : σ
  exchanges : List Exchange

/-- A world with a record. -/
def World.recorded (w : World σ) (exchanges : List Exchange) : World (Recorded σ) := ⟨⟨w.device, exchanges⟩, w.log⟩

/-- A world without its record. -/
def World.plain (w : World (Recorded σ)) : World σ := ⟨w.device.device, w.log⟩

/-- The transport that records its exchanges. -/
def Transport.recording (t : Transport σ) : Transport (Recorded σ) where
  execute d w :=
    let (answer, w') := t.execute d w.plain
    (answer, w'.recorded (w.device.exchanges ++ [⟨d, answer⟩]))

theorem exchanges_recording (t : Transport σ) (d : CommandDescriptor) (w : World (Recorded σ)) :
    (t.recording.execute d w).2.device.exchanges = w.device.exchanges ++ [⟨d, (t.recording.execute d w).1⟩] := rfl

/-- **The record changes nothing**: a command is issued as without it. -/
theorem issue_recording (t : Transport σ) (d : CommandDescriptor) (w : World (Recorded σ)) :
    issue t d w.plain =
      ((issue t.recording d w).1, (issue t.recording d w).2.1, (issue t.recording d w).2.2.plain) := by
  by_cases hd : d.isCompleted = true
  · rw [issue, issue, if_pos hd, if_pos hd]
  · rw [issue, issue, if_neg hd, if_neg hd]
    have hx : t.recording.execute d (w.note d.issuing) =
        ((t.execute d (w.plain.note d.issuing)).1,
          (t.execute d (w.plain.note d.issuing)).2.recorded (w.device.exchanges
            ++ [⟨d, (t.execute d (w.plain.note d.issuing)).1⟩])) := rfl
    rw [hx]
    generalize t.execute d (w.plain.note d.issuing) = answered
    obtain ⟨⟨effects, result⟩, w'⟩ := answered
    cases result with
    | error e => rfl
    | ok _ =>
      dsimp only
      cases (d.afterAll effects).completion with
      | none => rfl
      | some c => rfl

/-- A command that has a completion is not put on the transport. -/
theorem issue_completed (t : Transport σ) {d : CommandDescriptor} (w : World σ) (hd : d.isCompleted = true) :
    issue t d w = (.error .alreadyExecuted, d, w) := by
  rw [issue, if_pos hd]

/-- **A command that has not been executed is put on the transport once.** The exchange says how the command comes back,
and with which status. -/
theorem issue_exchange {t : Transport σ} {d d' : CommandDescriptor} {w w' : World (Recorded σ)}
    {result : Except TransportError StatusWord} (hd : d.completion = none)
    (h : issue t.recording d w = (result, d', w')) :
    ∃ e : Exchange, e.command = d ∧ e.outcome = d' ∧ w'.device.exchanges = w.device.exchanges ++ [e]
      ∧ e.status? = result.toOption := by
  obtain ⟨answer, w₁, hx, hd', hw', hresult⟩ := issue_cases hd h
  have hrecord := exchanges_recording t d (w.note d.issuing)
  rw [hx] at hrecord
  refine ⟨⟨d, answer⟩, rfl, hd'.symm, by rw [hw', hrecord]; rfl, ?_⟩
  rcases hresult with ⟨c, hok, hc, rfl⟩ | ⟨hnot, e, rfl⟩
  · have hc' : (d.afterAll answer.effects).completion = some c := hd' ▸ hc
    simp only [Exchange.status?, Exchange.outcome, hok, hc', Option.map_some, Except.toOption]
  · cases hr : answer.result with
    | error _ => simp only [Exchange.status?, hr, Except.toOption]
    | ok u =>
      have hc : d'.completion = none := by
        cases hc : d'.completion with
        | none => rfl
        | some c => exact (hnot ⟨hr, by rw [hc]; rfl⟩).elim
      have hc' : (d.afterAll answer.effects).completion = none := hd' ▸ hc
      simp only [Exchange.status?, Exchange.outcome, hr, hc', Option.map_none, Except.toOption]

end StorageCommands.Nvme
