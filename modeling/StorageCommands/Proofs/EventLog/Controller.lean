import StorageCommands.Emulated.Controller
import StorageCommands.Proofs.EventLog.Dialogue
import StorageCommands.Proofs.Nvme.Delivery
import StorageCommands.Proofs.Nvme.GetLogPage

/-!
# Controllers with a reporting context

A controller with a persistent event log holds at most one reporting context, and with it a frozen image of the log. A
`LogController` is a transport to such a controller. What it may do at a command is `Answers`: a command that succeeds
has been served (`Served`) with the context that was there, a command that fails with a status has no effect, and a
command that was not delivered may have been served or not. Statuses are otherwise free, and so is what is written to
the buffer of a command that was not served. Before any command the context may have been lost.

The commands of a session ask for what they are meant to (`command_asks`), and so `getLog_ensures` says what a transfer
of a session leaves behind.
-/

namespace StorageCommands.EventLog

open Nvme

variable {σ : Type}

/-! ## What a controller does -/

/-- The command transfers the persistent event log through its window, with an action on the context. -/
structure Asks (d : CommandDescriptor) (action : ContextAction) : Prop where
  opcode : d.opcode = .admin .getLogPage
  page : d.words.cdw10.toNat % 2 ^ 8 = LogPage.persistentEvent.toNat
  parameter : Emulated.parameterOf d = action.code.toNat
  window : ∃ t, d.transfer = some t ∧ t.len ≤ t.region.buffer.size
  notExecuted : d.completion = none

/-- What an action that succeeds does to the context, seen as its image of the log. -/
inductive Served : ContextAction → Option Bytes → Option Bytes → Prop
  | read (image : Bytes) : Served .read (some image) (some image)
  | establish (image : Bytes) : Served .establish none (some image)
  | release (context : Option Bytes) : Served .release context none

/-- How a controller may answer a command with an action, given the context before and after the command. -/
def Answers (action : ContextAction) (d : CommandDescriptor) (before after : Option Bytes) (answer : Answer) : Prop :=
  match answer.result, (d.afterAll answer.effects).completion with
  | .ok (), some c =>
    if c.status.isSuccess then
      Served action before after ∧ (action = .read → ∀ image ∈ before,
        (d.afterAll answer.effects).data = some (image.window (Emulated.offsetOf d) d.dataLength))
    else after = before
  | _, _ => after = before ∨ Served action before after

theorem Answers.of_completed {action : ContextAction} {d : CommandDescriptor} {before after : Option Bytes}
    {answer : Answer} {c : Completion} (hr : answer.result = .ok ())
    (hc : (d.afterAll answer.effects).completion = some c)
    (h : if c.status.isSuccess then
        Served action before after ∧ (action = .read → ∀ image ∈ before,
          (d.afterAll answer.effects).data = some (image.window (Emulated.offsetOf d) d.dataLength))
      else after = before) : Answers action d before after answer := by
  unfold Answers
  rw [hr, hc]
  exact h

theorem Answers.of_undelivered {action : ContextAction} {d : CommandDescriptor} {before after : Option Bytes}
    {answer : Answer} (h : Answers action d before after answer)
    (hnot : ¬(answer.result = .ok () ∧ (d.afterAll answer.effects).completion.isSome = true)) :
    after = before ∨ Served action before after := by
  unfold Answers at h
  split at h
  · rename_i c hr hc
    exact (hnot ⟨hr, by rw [hc]; rfl⟩).elim
  · exact h

/-- A transport to a controller with a persistent event log, and the context that the controller holds. While commands
are on their way the controller may lose the context, but no other host puts one in its place. -/
structure LogController (σ : Type) where
  transport : Transport σ
  /-- The image of the log that was frozen for the context, if there is one. -/
  context : σ → Option Bytes
  /-- Every command with an action is answered from the context that the controller holds, or from none if it has been
  lost before. -/
  answers : ∀ action d w, Asks d action → ∃ before, (before = context w.device ∨ before = none) ∧
    Answers action d before (context (transport.execute d w).2.device) (transport.execute d w).1

/-! ## The worlds of a session -/

/-- Issuing commands and logging leads from one world to another. -/
inductive Evolves (t : Transport σ) : World σ → World σ → Prop
  | same {w w' : World σ} (h : w'.device = w.device) : Evolves t w w'
  | issued (d : CommandDescriptor) (w : World σ) : Evolves t w (issue t d w).2.2
  | trans {u v w : World σ} (h : Evolves t u v) (h' : Evolves t v w) : Evolves t u w

theorem Evolves.refl (t : Transport σ) (w : World σ) : Evolves t w w := .same rfl

namespace LogController

variable (c : LogController σ)

/-- The context of a dialogue's controller. -/
def contextOf (d : Dialogue σ) : Option Bytes := c.context d.world.device

/-- The controller held a context with an image at some moment between two worlds. -/
def Held (image : Bytes) (w w' : World σ) : Prop :=
  ∃ v, Evolves c.transport w v ∧ c.context v.device = some image ∧ Evolves c.transport v w'

variable {c}

theorem Held.before {image : Bytes} {u w w' : World σ} (h : Evolves c.transport u w) (hw : c.Held image w w') :
    c.Held image u w' := by
  obtain ⟨v, h1, hv, h2⟩ := hw
  exact ⟨v, h.trans h1, hv, h2⟩

theorem Held.after {image : Bytes} {w w' u : World σ} (hw : c.Held image w w') (h : Evolves c.transport w' u) :
    c.Held image w u := by
  obtain ⟨v, h1, hv, h2⟩ := hw
  exact ⟨v, h1, hv, h2.trans h⟩

theorem Held.evolves {image : Bytes} {w w' : World σ} (hw : c.Held image w w') : Evolves c.transport w w' := by
  obtain ⟨v, h1, -, h2⟩ := hw
  exact h1.trans h2

end LogController

/-! ## The commands of a session -/

/-- A session's command asks for the action that it is meant to. -/
theorem asks_of_command {s : Session} {action : ContextAction} {offset len : Nat} {buffer : DataBuffer}
    {d : CommandDescriptor} (h : s.command action offset len buffer = .ok d) : Asks d action := by
  obtain ⟨hasked, htransfer, hsize, -⟩ := GetLogPage.command_asked h
  exact ⟨hasked.opcode, hasked.page, hasked.parameter, ⟨_, htransfer, hsize⟩, hasked.notExecuted⟩

/-- It asks for the offset that it is meant to, and transfers through the buffer. -/
theorem command_asks {s : Session} {action : ContextAction} {offset len : Nat} {buffer : DataBuffer}
    {d : CommandDescriptor} (h : s.command action offset len buffer = .ok d) (ho : offset < 2 ^ 64) :
    Asks d action ∧ Emulated.offsetOf d = offset ∧ d.transfer = some ⟨⟨buffer, true⟩, len⟩ := by
  obtain ⟨hasked, htransfer, -⟩ := GetLogPage.command_asked h
  refine ⟨asks_of_command h, ?_, htransfer⟩
  exact hasked.offset.trans (by rw [UInt64.toNat_ofNat', Nat.mod_eq_of_lt ho])

/-- What a transfer of a session leaves behind: the session keeps all but its buffer and its belief. -/
structure Transferred (c : LogController σ) (action : ContextAction) (offset len : Nat) (d : Dialogue σ)
    (r : Except Error StatusWord) (d' : Dialogue σ) : Prop where
  evolves : Evolves c.transport d.world d'.world
  kept : d'.session = { d.session with buffer := d'.session.buffer, state := d'.session.state }
  context : ∃ before, (before = c.contextOf d ∨ before = none) ∧
    match r with
    | .ok status =>
      if status.isSuccess then
        Served action before (c.contextOf d') ∧
          (action = .read → ∀ image ∈ before, d'.session.buffer.bytes.take len = image.window offset len)
      else c.contextOf d' = before
    | .error _ => c.contextOf d' = before ∨ Served action before (c.contextOf d')

namespace Transferred

variable {c : LogController σ} {action : ContextAction} {offset len : Nat} {d d' : Dialogue σ}
  {r : Except Error StatusWord}

theorem progress (h : Transferred c action offset len d r d') : d'.session.progress = d.session.progress := by
  rw [h.kept]

/-- Only an action that establishes a context can make one. -/
theorem context_of_ne_establish (h : Transferred c action offset len d r d') (ha : action ≠ .establish) :
    c.contextOf d' = c.contextOf d ∨ c.contextOf d' = none := by
  obtain ⟨before, hbefore, hr⟩ := h.context
  have hserved : Served action before (c.contextOf d') → c.contextOf d' = before ∨ c.contextOf d' = none := by
    intro hs
    generalize c.contextOf d' = after at hs
    cases hs with
    | read image => exact Or.inl rfl
    | establish image => exact (ha rfl).elim
    | release context => exact Or.inr rfl
  have hafter : c.contextOf d' = before ∨ c.contextOf d' = none := by
    cases r with
    | error e => exact hr.elim Or.inl hserved
    | ok status =>
      dsimp only at hr
      split at hr
      · exact hserved hr.1
      · exact Or.inl hr
  rcases hafter with hafter | hafter
  · rw [hafter]
    exact hbefore
  · exact Or.inr hafter

/-- A read that succeeds was served from the context, which is still there. -/
theorem read {status : StatusWord} (h : Transferred c .read offset len d (.ok status) d')
    (hs : status.isSuccess = true) :
    ∃ image, c.contextOf d = some image ∧ c.contextOf d' = some image
      ∧ d'.session.buffer.bytes.take len = image.window offset len := by
  obtain ⟨before, hbefore, hr⟩ := h.context
  dsimp only at hr
  rw [if_pos hs] at hr
  obtain ⟨hserved, hdata⟩ := hr
  generalize hafter : c.contextOf d' = after at hserved
  cases hserved with
  | read image =>
    refine ⟨image, ?_, rfl, hdata rfl image rfl⟩
    rcases hbefore with hbefore | hbefore
    · exact hbefore.symm
    · cases hbefore

end Transferred

/-- **What a transfer of a session leaves behind.** -/
theorem getLog_ensures (c : LogController σ) (action : ContextAction) {offset len : Nat} (ho : offset < 2 ^ 64)
    (d : Dialogue σ) : Ensures (getLog c.transport action offset len) d (Transferred c action offset len d) := by
  refine Ensures.getLog (fun e he => ?_) fun command hc result command' w hi w' hw' => ?_
  · exact ⟨.same rfl, rfl, _, Or.inl rfl, Or.inl rfl⟩
  · obtain ⟨hasks, hoffset, htransfer⟩ := command_asks hc ho
    have hevolves : Evolves c.transport d.world w' := by
      have := Evolves.issued (t := c.transport) command d.world
      rw [hi] at this
      exact this.trans (.same hw')
    obtain ⟨answer, w₁, hx, rfl, hw₁, hresult⟩ := issue_cases hasks.notExecuted hi
    obtain ⟨before, hbefore, hanswers⟩ := c.answers action command (d.world.note command.issuing) hasks
    rw [hx] at hanswers
    have hcontext : c.context w₁.device = c.context w'.device := by rw [hw', hw₁]
    rw [hcontext] at hanswers
    rcases hresult with ⟨completion, hok, hcompletion, rfl⟩ | ⟨hnot, e, rfl⟩
    · refine ⟨hevolves, rfl, before, hbefore, ?_⟩
      simp only [Answers, hok, hcompletion] at hanswers
      by_cases hs : completion.status.isSuccess = true
      · rw [if_pos hs] at hanswers
        refine (if_pos hs).mpr ⟨hanswers.1, fun hread image himage => ?_⟩
        have hdata := hanswers.2 hread image himage
        obtain ⟨t, ht, hkeeps⟩ := CommandDescriptor.afterAll_transfer htransfer answer.effects
        rw [CommandDescriptor.data, ht, Option.map_some, Option.some.injEq, Transfer.window, hkeeps.len, hoffset,
          CommandDescriptor.dataLength, htransfer] at hdata
        rw [CommandDescriptor.lentBuffer, ht, Option.bind_some, hkeeps.isLent]
        exact hdata
      · rw [if_neg hs] at hanswers
        exact (if_neg hs).mpr hanswers
    · exact ⟨hevolves, rfl, before, hbefore, hanswers.of_undelivered hnot⟩

end StorageCommands.EventLog
