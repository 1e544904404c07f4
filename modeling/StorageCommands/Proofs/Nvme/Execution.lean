import StorageCommands.Emulated.Controller
import StorageCommands.Proofs.Nvme.Recording

/-!
# How often a command is executed

A caller can give one command to `issue` and to `run` again and again, over transports of all kinds (`Call`). What the
transports were given is read off their records (`executions`).

- `Call.length_executions`: a call executes a command once if the command has no completion, and not at all otherwise.
- `executed_until_completed`: so a command is executed until a completion is recorded, and never after it.
- `lost_command_executed_twice`: an execution that was lost records none, and the command is executed again.
-/

namespace StorageCommands.Nvme

variable {σ : Type}

/-! ## One call -/

/-- What is called to put a command on a transport. -/
inductive Way
  | issue
  | run
  deriving DecidableEq, Repr

/-- The command and the world after a call. -/
def Way.deliver (way : Way) (t : Transport σ) (d : CommandDescriptor) (w : World σ) : CommandDescriptor × World σ :=
  match way with
  | .issue => (Nvme.issue t d w).2
  | .run => (Nvme.run t d w).2

/-- Only the result tells the two ways apart. -/
theorem Way.deliver_eq (way : Way) (t : Transport σ) (d : CommandDescriptor) (w : World σ) :
    way.deliver t d w = (Nvme.issue t d w).2 := by
  cases way with
  | issue => rfl
  | run =>
    simp only [deliver, Nvme.run]
    rcases Nvme.issue t d w with ⟨r, d', w'⟩
    cases r <;> rfl

/-- A call that puts a command on a transport. -/
structure Call : Type 1 where
  State : Type
  transport : Transport State
  world : World State
  way : Way

namespace Call

/-- The command after the call. -/
def leaves (c : Call) (d : CommandDescriptor) : CommandDescriptor := (c.way.deliver c.transport d c.world).1

/-- What the call's transport was given, with its answers. -/
def executions (c : Call) (d : CommandDescriptor) : List Exchange :=
  (c.way.deliver c.transport.recording d (c.world.recorded [])).2.device.exchanges

/-- A command that has a completion is not executed. -/
theorem of_completed (c : Call) {d : CommandDescriptor} (hd : d.isCompleted = true) :
    c.executions d = [] ∧ c.leaves d = d := by
  rw [executions, leaves, Way.deliver_eq, Way.deliver_eq, issue_completed _ _ hd, issue_completed _ _ hd]
  exact ⟨rfl, rfl⟩

/-- A command that has none is executed once, and comes back as the transport leaves it. -/
theorem of_pending (c : Call) {d : CommandDescriptor} (hd : d.completion = none) :
    ∃ e : Exchange, c.executions d = [e] ∧ e.command = d ∧ c.leaves d = e.outcome := by
  rcases hi : issue c.transport.recording d (c.world.recorded []) with ⟨r, d', w'⟩
  have hplain := issue_recording c.transport d (c.world.recorded [])
  obtain ⟨e, hcommand, houtcome, hrecord, -⟩ := issue_exchange hd hi
  rw [hi] at hplain
  refine ⟨e, ?_, hcommand, ?_⟩
  · rw [executions, Way.deliver_eq, hi, hrecord]
    rfl
  · rw [leaves, Way.deliver_eq, houtcome]
    exact congrArg (fun x => x.2.1) hplain

/-- **One call** executes the command once, or not at all if it has a completion. -/
theorem length_executions (c : Call) (d : CommandDescriptor) :
    (c.executions d).length = if d.isCompleted then 0 else 1 := by
  cases hd : d.completion with
  | some completion =>
    have hd' := CommandDescriptor.isCompleted_of_some hd
    rw [(c.of_completed hd').1, if_pos hd']
    rfl
  | none =>
    have hd' := CommandDescriptor.not_isCompleted hd
    obtain ⟨e, he, -⟩ := c.of_pending hd
    rw [he, if_neg hd']
    rfl

end Call

/-! ## All calls -/

/-- The command after calls, in order. -/
def leaves (calls : List Call) (d : CommandDescriptor) : CommandDescriptor := calls.foldl (fun d c => c.leaves d) d

/-- What the transports of the calls were given, in order. -/
def executions : List Call → CommandDescriptor → List Exchange
  | [], _ => []
  | c :: calls, d => c.executions d ++ executions calls (c.leaves d)

theorem executions_of_completed (calls : List Call) {d : CommandDescriptor} (hd : d.isCompleted = true) :
    executions calls d = [] := by
  induction calls with
  | nil => rfl
  | cons c calls ih =>
    obtain ⟨hnone, hsame⟩ := c.of_completed hd
    rw [executions, hnone, hsame, ih, List.append_nil]

/-- Only the last execution can have recorded a completion. -/
theorem pairwise_executions (calls : List Call) (d : CommandDescriptor) :
    (executions calls d).Pairwise fun e _ => e.outcome.completion = none := by
  induction calls generalizing d with
  | nil => exact List.Pairwise.nil
  | cons c calls ih =>
    cases hd : d.completion with
    | some completion =>
      have hd' := CommandDescriptor.isCompleted_of_some hd
      rw [executions_of_completed _ hd']
      exact List.Pairwise.nil
    | none =>
      obtain ⟨e, he, -, hleaves⟩ := c.of_pending hd
      rw [executions, he, List.singleton_append, List.pairwise_cons]
      refine ⟨fun e' he' => ?_, ih _⟩
      cases hc : e.outcome.completion with
      | none => rfl
      | some completion =>
        -- a completion recorded by this execution would have kept the later calls from executing
        have hcompleted : (c.leaves d).isCompleted = true := by
          rw [hleaves]
          exact CommandDescriptor.isCompleted_of_some hc
        rw [executions_of_completed _ hcompleted] at he'
        cases he'

/-- **A command is executed until a completion is recorded**: every call executes it once as long as it has none, and
not at all from then on. So it is executed at most once if no execution is lost. -/
theorem executed_until_completed (calls : List Call) (d : CommandDescriptor) :
    ((executions calls d).Pairwise fun e _ => e.outcome.completion = none)
      ∧ (∀ c : Call, (c.executions (leaves calls d)).length = if (leaves calls d).isCompleted then 0 else 1)
      ∧ ((∀ e ∈ executions calls d, e.outcome.isCompleted = true) → (executions calls d).length ≤ 1) := by
  have hpairwise := pairwise_executions calls d
  refine ⟨hpairwise, fun c => c.length_executions _, fun hall => ?_⟩
  generalize executions calls d = es at hpairwise hall
  match es with
  | [] => exact Nat.zero_le 1
  | [_] => exact Nat.le_refl 1
  | e :: e' :: es =>
    have hnone : e.outcome.completion = none := List.rel_of_pairwise_cons hpairwise (List.mem_cons_self ..)
    exact absurd (hall e (List.mem_cons_self ..)) (CommandDescriptor.not_isCompleted hnone)

/-- Keep Alive, without data. -/
def keepAlive : CommandDescriptor where
  opcode := .admin 0x18
  nsid := 0
  cdw2 := 0
  cdw3 := 0
  words := {}
  transfer := none
  metadata := none
  timeout := none
  completion := none

/-- Calls of `issue` and then of `run`, over transports that do one thing each. -/
def issueThenRun (first second : Emulated.Misbehavior) : List Call :=
  [⟨Unit, Emulated.Fault.transport { misbehavior := first }, ⟨(), []⟩, .issue⟩,
   ⟨Unit, Emulated.Fault.transport { misbehavior := second }, ⟨(), []⟩, .run⟩]

/-- A command that was served is not executed again. -/
theorem served_command_executed_once :
    let calls := issueThenRun (.complete ⟨⟨0⟩, 0⟩) (.complete ⟨⟨0⟩, 0⟩)
    executions calls keepAlive ≠ [] ∧ (∀ e ∈ executions calls keepAlive, e.outcome.isCompleted = true)
      ∧ (executions calls keepAlive).length ≤ 1 := by
  intro calls
  have hall : ∀ e ∈ executions calls keepAlive, e.outcome.isCompleted = true := by decide
  have hsome : 0 < (executions calls keepAlive).length := by decide
  exact ⟨List.ne_nil_of_length_pos hsome, hall, (executed_until_completed calls keepAlive).2.2 hall⟩

/-- A command whose execution was lost is executed again, though the device may have carried it out. -/
theorem lost_command_executed_twice :
    let calls := issueThenRun (.fail (.requestFailed (.described "link down"))) (.complete ⟨⟨0⟩, 0⟩)
    CommandBuilder.build { opcode := .admin 0x18 } = .ok keepAlive ∧ (executions calls keepAlive).length = 2
      ∧ ¬∀ calls d, (executions calls d).length ≤ 1 := by
  intro calls
  have htwice : (executions calls keepAlive).length = 2 := by decide
  refine ⟨rfl, htwice, fun hall => ?_⟩
  have := hall calls keepAlive
  omega

end StorageCommands.Nvme
