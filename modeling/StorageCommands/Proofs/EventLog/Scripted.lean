import StorageCommands.Proofs.EventLog.Controller
import StorageCommands.Proofs.EventLog.Operations

/-!
# A controller that follows a script

`Scripted.controller` is a `LogController` that shows all that such a controller can do: at each command it serves,
loses its context first, refuses, or is cut off before or after it has served. `Scripted.interrupted` is a dialogue with
it in which a read of the log was cut off after the header.
-/

namespace StorageCommands.EventLog

open Nvme

/-- What happens at a command. -/
inductive Turn
  /-- It is served. -/
  | serve
  /-- The context is lost before it is served. -/
  | lose
  /-- It fails with a status. -/
  | refuse (status : StatusWord) (h : status.isSuccess = false)
  /-- It is served, or not, and its completion is lost. -/
  | drop (served : Bool)

/-- A controller that freezes one image after the other, and lets happen what its script says. -/
structure Scripted where
  context : Option Bytes := none
  /-- The images of the contexts to come. -/
  images : List Bytes := []
  /-- What happens at the commands to come; then all are served. -/
  script : List Turn := []

namespace Scripted

/-- Serves a command with an action, if it can be served. -/
def serve (s : Scripted) (d : CommandDescriptor) (action : ContextAction) : List Effect × StatusWord × Scripted :=
  match action, s.context, s.images with
  | .read, some image, _ => (Emulated.Controller.serve d image (Emulated.offsetOf d), ⟨0⟩, s)
  | .establish, none, image :: images =>
    (Emulated.Controller.serve d image 0, ⟨0⟩, { s with context := some image, images })
  | .establish, none, [] => ([], ⟨0x0006⟩, s)
  | .release, _, _ => ([], ⟨0⟩, { s with context := none })
  | .read, none, _ | .establish, some _, _ => ([], ⟨0x000c⟩, s)

/-- The action that a command asks for. -/
def action (d : CommandDescriptor) : ContextAction :=
  match Emulated.parameterOf d with
  | 0 => .read
  | 1 => .establish
  | _ => .release

/-- Lets happen at a command what the script says. -/
def execute (d : CommandDescriptor) (w : World Scripted) : Answer × World Scripted :=
  let s := { w.device with script := w.device.script.tail }
  match w.device.script.head?.getD .serve with
  | .serve =>
    let (effects, status, s) := s.serve d (action d)
    (⟨effects ++ [.complete ⟨status, 0⟩], .ok ()⟩, { w with device := s })
  | .lose =>
    let (effects, status, s) := { s with context := none }.serve d (action d)
    (⟨effects ++ [.complete ⟨status, 0⟩], .ok ()⟩, { w with device := s })
  | .refuse status _ => (⟨[.complete ⟨status, 0⟩], .ok ()⟩, { w with device := s })
  | .drop served => (⟨[], .error .notCompleted⟩, { w with device := if served then (s.serve d (action d)).2.2 else s })

theorem action_eq {d : CommandDescriptor} {a : ContextAction} (h : Asks d a) : action d = a := by
  unfold action
  rw [h.parameter]
  cases a <;> rfl

/-- What serving a command does to the context. -/
theorem serve_context (s : Scripted) (d : CommandDescriptor) (a : ContextAction) :
    (s.serve d a).2.2.context = s.context ∨ Served a s.context (s.serve d a).2.2.context := by
  unfold serve
  split
  · exact Or.inl rfl
  · rename_i image _ hc _
    rw [hc]
    exact Or.inr (.establish image)
  · exact Or.inl rfl
  · exact Or.inr (.release _)
  · exact Or.inl rfl
  · exact Or.inl rfl

theorem completion_complete {d : CommandDescriptor} (hd : d.completion = none) (c : Completion) :
    (d.afterAll [.complete c]).completion = some c := by
  simp [CommandDescriptor.afterAll, CommandDescriptor.after, CommandDescriptor.complete?,
    CommandDescriptor.isCompleted, hd]

theorem afterAll_write_complete {d : CommandDescriptor} (hd : d.completion = none) (b : Bytes) (c : Completion) :
    d.afterAll [.writeData b, .complete c] = { d.writeData b with completion := some c } := by
  simp [CommandDescriptor.afterAll, CommandDescriptor.after, CommandDescriptor.complete?,
    CommandDescriptor.isCompleted, CommandDescriptor.writeData, hd]

/-- A status without an effect is an answer to every command. -/
theorem answers_refusal {d : CommandDescriptor} {a : ContextAction} (h : Asks d a) {status : StatusWord}
    (hs : status.isSuccess = false) (context : Option Bytes) :
    Answers a d context context ⟨[.complete ⟨status, 0⟩], .ok ()⟩ := by
  refine .of_completed rfl (completion_complete h.notExecuted _) ?_
  rw [if_neg (by rw [hs]; exact Bool.false_ne_true)]

/-- A command that is served is answered as it has to be. -/
theorem answers_serve {d : CommandDescriptor} {a : ContextAction} (h : Asks d a) (s : Scripted) :
    Answers a d s.context (s.serve d a).2.2.context
      ⟨(s.serve d a).1 ++ [.complete ⟨(s.serve d a).2.1, 0⟩], .ok ()⟩ := by
  have hd := h.notExecuted
  have hsuccess : (⟨0⟩ : StatusWord).isSuccess = true := by decide
  have herror : (⟨0x0006⟩ : StatusWord).isSuccess = false := by decide
  have hsequence : (⟨0x000c⟩ : StatusWord).isSuccess = false := by decide
  unfold serve
  split
  · rename_i image hc
    rw [hc]
    refine .of_completed rfl (congrArg _ (afterAll_write_complete hd _ _)) ?_
    rw [if_pos hsuccess]
    refine ⟨.read image, fun _ image' himage => ?_⟩
    cases himage
    obtain ⟨t, ht, hl⟩ := h.window
    have hdata := CommandDescriptor.data_writeData ht hl (Bytes.length_window image (Emulated.offsetOf d) d.dataLength)
    rw [← Bytes.fill_zeros] at hdata ⊢
    exact (congrArg CommandDescriptor.data (afterAll_write_complete hd _ _)).trans hdata
  · rename_i image _ hc _
    rw [hc]
    refine .of_completed rfl (congrArg _ (afterAll_write_complete hd _ _)) ?_
    rw [if_pos hsuccess]
    exact ⟨.establish image, fun ha => by cases ha⟩
  · exact answers_refusal h herror _
  · refine .of_completed rfl (completion_complete hd _) ?_
    rw [if_pos hsuccess]
    exact ⟨.release _, fun ha => by cases ha⟩
  · exact answers_refusal h hsequence _
  · exact answers_refusal h hsequence _

/-- Whatever the script says, commands are answered as they have to be. -/
theorem answers_execute (a : ContextAction) (d : CommandDescriptor) (w : World Scripted) (h : Asks d a) :
    ∃ before, (before = w.device.context ∨ before = none) ∧
      Answers a d before (execute d w).2.device.context (execute d w).1 := by
  unfold execute
  rw [action_eq h]
  cases w.device.script.head?.getD .serve with
  | serve => exact ⟨_, Or.inl rfl, answers_serve h { w.device with script := w.device.script.tail }⟩
  | lose =>
    exact ⟨none, Or.inr rfl, answers_serve h { w.device with context := none, script := w.device.script.tail }⟩
  | refuse status hs => exact ⟨_, Or.inl rfl, answers_refusal h hs _⟩
  | drop served =>
    refine ⟨_, Or.inl rfl, ?_⟩
    cases served with
    | false => exact Or.inl rfl
    | true => exact serve_context { w.device with script := w.device.script.tail } d a

/-- The controller that follows a script. -/
def controller : LogController Scripted where
  transport := ⟨execute⟩
  context := Scripted.context
  answers := answers_execute

/-! ## A read that was cut off -/

/-- A log of 1000 bytes that reports `n` events. -/
def image (n : UInt8) : Bytes := ((Bytes.zeros 1024).overwrite 4 [n, 0, 0, 0, 0xe8, 0x03]).overwrite 600 [n]

/-- A new session that reads in chunks of 512 bytes. -/
def session : Session where
  config := { chunkSize := 512 }
  state := .notEstablished
  extended := true
  maxLogLength := 256 * 2 ^ 20
  buffer := .zeroed 512
  progress := none
  chunkSize_pos := by decide
  chunkSize_dvd := by decide

theorem session_new : Session.new true { chunkSize := 512 } = .ok session := rfl

/-- The context was established and the header read, but the transfer of the second half of the log was cut off. -/
def interrupted : Dialogue Scripted :=
  let after (op : Operation) (d : Dialogue Scripted) := ((op.perform controller.transport).run.run d).2
  after .readLog (after .establish ⟨session, ⟨{ images := [image 7], script := [.serve, .serve, .drop false] }, []⟩⟩)

/-- A log that comes of running an operation, with what was checked of it. -/
theorem exists_log {x : Except Error (Option Log) × Dialogue Scripted} {property : Log → Bool}
    (h : x.1.toOption.join.any property = true) : ∃ log d, x = (.ok (some log), d) ∧ property log = true := by
  obtain ⟨r, d⟩ := x
  obtain e | ⟨_ | log⟩ := r
  · cases h
  · cases h
  · exact ⟨log, d, rfl, h⟩

theorem reaches_interrupted (between : Dialogue Scripted → World Scripted → Prop) :
    Reaches controller.transport between interrupted :=
  .perform .readLog (.perform .establish (.new session_new _))

/-- A new session for a controller that takes no offsets. -/
def plainSession : Session := { session with extended := false }

theorem plainSession_new : Session.new false { chunkSize := 512 } = .ok plainSession := rfl

/-- The context was established and the header read, but the transfer of the whole log was cut off. -/
def interruptedWhole : Dialogue Scripted :=
  let after (op : Operation) (d : Dialogue Scripted) := ((op.perform controller.transport).run.run d).2
  after .readLog
    (after .establish ⟨plainSession, ⟨{ images := [image 7], script := [.serve, .serve, .drop false] }, []⟩⟩)

theorem reaches_interruptedWhole (between : Dialogue Scripted → World Scripted → Prop) :
    Reaches controller.transport between interruptedWhole :=
  .perform .readLog (.perform .establish (.new plainSession_new _))

end Scripted

end StorageCommands.EventLog
