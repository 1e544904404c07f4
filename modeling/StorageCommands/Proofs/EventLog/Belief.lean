import StorageCommands.Proofs.EventLog.Scripted

/-!
# Belief in the reporting context

A session believes that the controller has a reporting context, that it has none, or that either may be. What it
believes comes from statuses alone, and a command whose answer was lost has none. An `ExclusiveController` is a
controller whose context nobody but the session changes: a command that succeeds has done its work (`Granted`), a
command sequence error says that the context stood in the way or was missing (`OutOfSequence`), any other failure has
no effect, and a command that was not delivered may have done its work or not.

- `getLog_heard`: what a transfer leaves behind, in the session and in the controller.
- `perform_justified`: no operation leaves the session believing in a context that is not there (`Justified`).
- `belief_sound`: so the belief is right in every run, and what `checkContext` says is true.
-/

namespace StorageCommands.EventLog

open Nvme

variable {σ : Type}

/-! ## What a controller does -/

/-- What an action does to the presence of a context when it succeeds. -/
inductive Granted : ContextAction → Bool → Bool → Prop
  | read : Granted .read true true
  | establish : Granted .establish false true
  | release (present : Bool) : Granted .release present false

/-- When an action is out of sequence, given the presence of a context. -/
inductive OutOfSequence : ContextAction → Bool → Prop
  | read : OutOfSequence .read false
  | establish : OutOfSequence .establish true
  | release (present : Bool) : OutOfSequence .release present

/-- The status with which an action may complete, given the presence of a context before and after it. -/
inductive Completes (action : ContextAction) (status : StatusWord) (before after : Bool) : Prop
  | granted (hs : status.isSuccess = true) (h : Granted action before after)
  | refused (hs : status.isSuccess = false) (hsame : after = before)
      (hq : status.isSequenceError = true → OutOfSequence action before)

/-- How a controller may answer a command with an action. -/
def Obeys (action : ContextAction) (d : CommandDescriptor) (before after : Bool) (answer : Answer) : Prop :=
  match answer.result, (d.afterAll answer.effects).completion with
  | .ok (), some c => Completes action c.status before after
  | _, _ => after = before ∨ Granted action before after

/-- A transport to a controller whose reporting context only the commands of one session change. -/
structure ExclusiveController (σ : Type) where
  transport : Transport σ
  /-- Whether there is a context. -/
  present : σ → Bool
  obeys : ∀ action d w, Asks d action →
    Obeys action d (present w.device) (present (transport.execute d w).2.device) (transport.execute d w).1

namespace Completes

variable {action : ContextAction} {status : StatusWord} {before after : Bool}

/-- A read leaves the context alone. -/
theorem read_same (h : Completes .read status before after) : after = before := by
  cases h with
  | granted _ h =>
    cases h
    rfl
  | refused _ hsame _ => exact hsame

/-- A read that succeeds finds a context. -/
theorem read_success (h : Completes .read status before after) (hs : status.isSuccess = true) : after = true := by
  cases h with
  | granted _ h =>
    cases h
    rfl
  | refused hs' _ _ =>
    rw [hs] at hs'
    cases hs'

/-- A read is out of sequence where there is no context. -/
theorem read_sequenceError (h : Completes .read status before after) (hs : status.isSuccess = false)
    (hq : status.isSequenceError = true) : after = false := by
  cases h with
  | granted hs' _ =>
    rw [hs] at hs'
    cases hs'
  | refused _ hsame hq' =>
    rw [hsame]
    generalize before = present at hq'
    cases hq' hq
    rfl

/-- After a context was made, and where one was in the way, there is one. -/
theorem establish (h : Completes .establish status before after)
    (hs : status.isSuccess = true ∨ status.isSequenceError = true) : after = true := by
  cases h with
  | granted _ h =>
    cases h
    rfl
  | refused hs' hsame hq' =>
    rcases hs with hs | hq
    · rw [hs] at hs'
      cases hs'
    · rw [hsame]
      generalize before = present at hq'
      cases hq' hq
      rfl

end Completes

/-! ## What a session hears -/

namespace ExclusiveController

variable (c : ExclusiveController σ)

/-- Whether there is a context in a dialogue's controller. -/
def presentIn (d : Dialogue σ) : Bool := c.present d.world.device

/-- What a transfer leaves behind: a status that tells what happened, or an error that leaves the context unknown,
unless no command was sent. -/
inductive Heard (action : ContextAction) (d : Dialogue σ) : Except Error StatusWord → Dialogue σ → Prop
  | completed {status : StatusWord} {d' : Dialogue σ} (hs : d'.session.state = d.session.state)
      (h : Completes action status (c.presentIn d) (c.presentIn d')) : Heard action d (.ok status) d'
  | undelivered {e : Error} {d' : Dialogue σ} (hs : d'.session.state = .unknown)
      (h : c.presentIn d' = c.presentIn d ∨ Granted action (c.presentIn d) (c.presentIn d')) :
      Heard action d (.error e) d'
  | unsent {e : Error} {d' : Dialogue σ} (hs : d'.session.state = d.session.state)
      (h : c.presentIn d' = c.presentIn d) : Heard action d (.error e) d'

/-- If the session believes that there is a context, there is one. -/
def Justified (d : Dialogue σ) : Prop := d.session.state = .established → c.presentIn d = true

/-- The context is as before, and the session is justified. -/
def Observed (d d' : Dialogue σ) : Prop := c.presentIn d' = c.presentIn d ∧ c.Justified d'

/-- Between two operations nobody else touches the context. -/
def Alone (d : Dialogue σ) (w : World σ) : Prop := c.present w.device = c.presentIn d

end ExclusiveController

open ExclusiveController

variable {c : ExclusiveController σ} {d d' d'' : Dialogue σ}

/-- **What a transfer leaves behind**, in the session and in the controller. -/
theorem getLog_heard (c : ExclusiveController σ) (action : ContextAction) (offset len : Nat) (d : Dialogue σ) :
    Ensures (getLog c.transport action offset len) d (c.Heard action d) := by
  refine Ensures.getLog (fun e _ => .unsent rfl rfl) fun command hc result command' w hi w' hw' => ?_
  have hasks := asks_of_command hc
  obtain ⟨answer, w₁, hx, rfl, hw₁, hresult⟩ := issue_cases hasks.notExecuted hi
  have hobeys := c.obeys action command (d.world.note command.issuing) hasks
  have hpresent : c.present w₁.device = c.present w'.device := by rw [hw', hw₁]
  rw [hx, hpresent] at hobeys
  rcases hresult with ⟨completion, hok, hcompletion, rfl⟩ | ⟨hnot, e, rfl⟩
  · simp only [Obeys, hok, hcompletion] at hobeys
    exact .completed rfl hobeys
  · refine .undelivered rfl ?_
    unfold Obeys at hobeys
    split at hobeys
    · rename_i completion hok hcompletion
      exact (hnot ⟨hok, by rw [hcompletion]; rfl⟩).elim
    · exact hobeys

namespace ExclusiveController

theorem Justified.of_state (h : d.session.state ≠ .established) : c.Justified d := fun hs => (h hs).elim

theorem Justified.of_fresh (h : d.session.Fresh) : c.Justified d := .of_state (by rw [h.state]; decide)

theorem Justified.of_present (h : c.presentIn d = true) : c.Justified d := fun _ => h

/-- A transfer that gives no status leaves the session justified, whatever the controller did. -/
theorem Heard.justified_of_error {action : ContextAction} {e : Error} (h : c.Heard action d (.error e) d')
    (hd : c.Justified d) : c.Justified d' := by
  cases h with
  | undelivered hs _ => exact .of_state (by rw [hs]; decide)
  | unsent hs h =>
    intro hs'
    rw [h]
    exact hd (hs.symm.trans hs')

theorem Heard.completes {action : ContextAction} {status : StatusWord} (h : c.Heard action d (.ok status) d') :
    Completes action status (c.presentIn d) (c.presentIn d') := by
  cases h with
  | completed _ h => exact h

/-- A read leaves the context alone, whether the session hears of it or not. -/
theorem Heard.read_same {r : Except Error StatusWord} (h : c.Heard .read d r d') : c.presentIn d' = c.presentIn d := by
  cases h with
  | completed _ h => exact h.read_same
  | undelivered _ h =>
    rcases h with h | h
    · exact h
    · generalize c.presentIn d = before, c.presentIn d' = after at h
      cases h
      rfl
  | unsent _ h => exact h

theorem Observed.refl (hd : c.Justified d) : c.Observed d d := ⟨rfl, hd⟩

theorem Observed.trans (h : c.Observed d d') (h' : c.Observed d' d'') : c.Observed d d'' := ⟨h'.1.trans h.1, h'.2⟩

/-! ## Reads -/

theorem Heard.observed_of_error {e : Error} (h : c.Heard .read d (.error e) d') (hd : c.Justified d) :
    c.Observed d d' :=
  ⟨h.read_same, h.justified_of_error hd⟩

/-- After a read that succeeded any belief is justified. -/
theorem Heard.observed_of_success {status : StatusWord} (h : c.Heard .read d (.ok status) d')
    (hs : status.isSuccess = true) {s : Session} {w : World σ} (hw : w.device = d'.world.device) :
    c.Observed d ⟨s, w⟩ := by
  have hpresent : c.present w.device = c.presentIn d' := congrArg c.present hw
  exact ⟨hpresent.trans h.read_same, .of_present (hpresent.trans (h.completes.read_success hs))⟩

/-- A session that was refused believes in no context, or what it believed before. -/
theorem Heard.observed_of_refused {status : StatusWord} {offset : Nat} {e : Error} {s : Session} {w : World σ}
    (h : c.Heard .read d (.ok status) d') (hd : c.Justified d) (hs : Refused d'.session status offset e s)
    (hw : w.device = d'.world.device) : c.Observed d ⟨s, w⟩ := by
  have hsame : c.present w.device = c.presentIn d := (congrArg c.present hw).trans h.read_same
  refine ⟨hsame, ?_⟩
  cases hs with
  | noContext _ => exact .of_state ContextState.noConfusion
  | failed _ =>
    cases h with
    | completed hs _ => exact fun hs' => hsame.trans (hd (hs.symm.trans hs'))

end ExclusiveController

theorem readHeader_observed (hd : c.Justified d) : Ensures (readHeader c.transport) d fun _ d' => c.Observed d d' := by
  refine readHeader_ensures (getLog_heard c .read 0 headerLength d) ?_ ?_ ?_
  · intro e d₁ h₁
    exact h₁.observed_of_error hd
  · intro status d₁ h₁ _ e s w hs hw
    exact h₁.observed_of_refused hd hs hw
  · intro status d₁ h₁ hsuccess r s w _ hw
    exact h₁.observed_of_success hsuccess hw

theorem readWhole_observed (hd : c.Justified d) (p : Progress) :
    Ensures (readWhole c.transport p) d fun _ d' => c.Observed d d' := by
  refine readWhole_ensures (getLog_heard c .read 0 p.total d) ?_ ?_ ?_ ?_ ?_
  · intro _
    exact .refl hd
  · intro _ _
    exact .refl hd
  · intro _ e d₁ h₁
    exact h₁.observed_of_error hd
  · intro _ status d₁ h₁ _ e s w hs hw
    exact h₁.observed_of_refused hd hs hw
  · intro _ status d₁ h₁ hsuccess w hw
    exact h₁.observed_of_success hsuccess hw

theorem readChunks_observed (hd : c.Justified d) {chunkSize : Nat} (pos : 0 < chunkSize) (p : Progress) :
    Ensures (readChunks c.transport chunkSize pos p) d fun _ d' => c.Observed d d' := by
  refine (@readChunks_ensures σ c.transport chunkSize pos (fun _ d' => c.Observed d d') (fun _ d' => c.Observed d d')
    (fun q d₁ h₁ _ => ?_) p d (.refl hd)).mono fun r d₁ h₁ => ?_
  · refine ⟨_, getLog_heard c .read q.offset (q.chunkLength chunkSize) d₁, ?_, ?_, ?_⟩
    · intro e d₂ h₂
      exact h₁.trans (h₂.observed_of_error h₁.2)
    · intro status d₂ h₂ _ e s w hs hw
      exact h₁.trans (h₂.observed_of_refused h₁.2 hs hw)
    · intro status d₂ h₂ hsuccess w hw next _
      exact h₁.trans (h₂.observed_of_success hsuccess hw)
  · cases r with
    | ok q => exact h₁.1
    | error e => exact h₁

theorem readLogUnchecked_observed (hd : c.Justified d) :
    Ensures (readLogUnchecked c.transport) d fun _ d' => c.Observed d d' := by
  refine readLogUnchecked_ensures (fun _ d' => c.Observed d d') (fun _ d' => c.Observed d d') ?_ ?_ ?_ ?_ ?_ ?_
  · intro p _
    exact .refl hd
  · intro _
    exact readHeader_observed hd
  · intro p d₁ h₁
    refine readRest_ensures (fun _ => ?_) fun _ => ?_
    · exact (readChunks_observed h₁.2 d₁.session.chunkSize_pos p).mono fun _ d₂ h₂ => h₁.trans h₂
    · exact (readWhole_observed h₁.2 p).mono fun _ d₂ h₂ => h₁.trans h₂
  · intro e d₁ h₁
    exact h₁
  · intro e d₁ h₁
    exact h₁
  · intro p d₁ h₁ w hw
    have hsame : c.present w.device = c.presentIn d₁ := congrArg c.present hw
    exact ⟨hsame.trans h₁.1, fun hs => hsame.trans (h₁.2 hs)⟩

theorem readLog_observed (hd : c.Justified d) : Ensures (readLog c.transport) d fun _ d' => c.Observed d d' :=
  readLog_ensures (fun _ => readLogUnchecked_observed hd) (fun _ => .refl hd) fun _ => .refl hd

/-- **Asking whether there is a context** changes nothing, and a definite answer is true. -/
theorem checkContext_observed (hd : c.Justified d) : Ensures (checkContext c.transport) d fun r d' =>
    c.Observed d d' ∧ ∀ state, r = .ok state → d'.session.state = state
      ∧ (state = .established → c.presentIn d' = true) ∧ (state = .notEstablished → c.presentIn d' = false) := by
  refine checkContext_ensures (getLog_heard c .read 0 headerLength d) ?_ ?_
  · intro e d₁ h₁
    exact ⟨h₁.observed_of_error hd, fun _ hr => by cases hr⟩
  · intro status d₁ h₁ w hw
    have hsame : c.present w.device = c.presentIn d₁ := congrArg c.present hw
    have hestablished : verdict status = .established → c.present w.device = true := fun hv =>
      hsame.trans (h₁.completes.read_success (verdict_eq_established.mp hv))
    refine ⟨⟨hsame.trans h₁.read_same, hestablished⟩, fun state hr => ?_⟩
    cases hr
    refine ⟨rfl, hestablished, fun hv => hsame.trans ?_⟩
    obtain ⟨hs, hq⟩ := verdict_eq_notEstablished.mp hv
    exact h₁.completes.read_sequenceError hs hq

/-! ## The other operations -/

theorem establish_justified (hd : c.Justified d) : Ensures (establish c.transport) d fun _ d' => c.Justified d' := by
  refine establish_ensures (getLog_heard c .establish 0 headerLength _) ?_ ?_ ?_
  · intro e d₁ h₁
    exact h₁.justified_of_error hd
  · intro status d₁ h₁ hs w hw
    exact .of_present ((congrArg c.present hw).trans (h₁.completes.establish hs))
  · intro status d₁ _ _ _ w _
    exact .of_state ContextState.noConfusion

theorem release_justified : Ensures (release c.transport) d fun _ d' => c.Justified d' :=
  release_ensures (getLog_heard c .release 0 headerLength d) fun _ _ _ _ _ => .of_state ContextState.noConfusion

theorem retrieve_justified (hd : c.Justified d) : Ensures (retrieve c.transport) d fun _ d' => c.Justified d' := by
  refine retrieve_ensures (fun _ d' => c.Justified d') (establish_justified hd) ?_ ?_ ?_
  · intro d₁ h₁
    exact (readLog_observed h₁).mono fun _ _ h => h.2
  · intro e d₁ h₁
    exact h₁
  · intro r d₁ _
    exact release_justified.mono fun _ d₂ h₂ w hw hs => (congrArg c.present hw).trans (h₂ hs)

/-! ## A controller with faults -/

/-- What happens at a command. -/
inductive Fate
  /-- It is served. -/
  | served
  /-- It fails with a status that says nothing about the context. -/
  | refused (status : StatusWord) (hs : status.isSuccess = false) (hq : status.isSequenceError = false)
  /-- It is served, or not, and its completion is lost. -/
  | lost (served : Bool)

/-- A controller that has a context or none, and lets happen to commands what their fates say. -/
structure Faulty where
  present : Bool := false
  /-- What happens at the commands to come; then all are served. -/
  fates : List Fate := []

namespace Faulty

/-- The status of an action that is served, and whether there is a context afterwards. -/
def serve (present : Bool) : ContextAction → StatusWord × Bool
  | .read => (if present then ⟨0⟩ else ⟨0x000c⟩, present)
  | .establish => (if present then ⟨0x000c⟩ else ⟨0⟩, true)
  | .release => (⟨0⟩, false)

/-- Lets happen to a command what its fate says. -/
def execute (d : CommandDescriptor) (w : World Faulty) : Answer × World Faulty :=
  let (status, present) := serve w.device.present (Scripted.action d)
  let fates := w.device.fates.tail
  match w.device.fates.head?.getD .served with
  | .served => (⟨[.complete ⟨status, 0⟩], .ok ()⟩, { w with device := ⟨present, fates⟩ })
  | .refused status _ _ => (⟨[.complete ⟨status, 0⟩], .ok ()⟩, { w with device := ⟨w.device.present, fates⟩ })
  | .lost served =>
    (⟨[], .error .notCompleted⟩, { w with device := ⟨if served then present else w.device.present, fates⟩ })

/-- An action that is served completes with the status that it ought to have. -/
theorem completes_serve (present : Bool) (action : ContextAction) :
    Completes action (serve present action).1 present (serve present action).2 := by
  have hsuccess : (⟨0⟩ : StatusWord).isSuccess = true := by decide
  have hsequence : (⟨0x000c⟩ : StatusWord).isSuccess = false := by decide
  cases action with
  | read =>
    cases present with
    | true => exact .granted hsuccess .read
    | false => exact .refused hsequence rfl fun _ => .read
  | establish =>
    cases present with
    | true => exact .refused hsequence rfl fun _ => .establish
    | false => exact .granted hsuccess .establish
  | release => exact .granted hsuccess (.release present)

theorem obeys_completed {action : ContextAction} {d : CommandDescriptor} (h : d.completion = none)
    {status : StatusWord} {before after : Bool} (hc : Completes action status before after) :
    Obeys action d before after ⟨[.complete ⟨status, 0⟩], .ok ()⟩ := by
  unfold Obeys
  rw [Scripted.completion_complete h]
  exact hc

/-- Whatever their fates, commands are answered as they have to be. -/
theorem obeys_execute (action : ContextAction) (d : CommandDescriptor) (w : World Faulty) (h : Asks d action) :
    Obeys action d w.device.present (execute d w).2.device.present (execute d w).1 := by
  have hserved := completes_serve w.device.present action
  unfold execute
  rw [Scripted.action_eq h]
  cases w.device.fates.head?.getD .served with
  | served => exact obeys_completed h.notExecuted hserved
  | refused status hs hq =>
    refine obeys_completed h.notExecuted (.refused hs rfl fun hq' => ?_)
    rw [hq] at hq'
    cases hq'
  | lost served =>
    cases served with
    | false => exact Or.inl rfl
    | true =>
      cases hserved with
      | granted _ h => exact Or.inr h
      | refused _ hsame _ => exact Or.inl hsame

/-- The controller with faults. -/
def controller : ExclusiveController Faulty where
  transport := ⟨execute⟩
  present := Faulty.present
  obeys := obeys_execute

/-- The context was established, but the session did not hear of it. -/
def unheard : Dialogue Faulty :=
  ((Operation.establish.perform controller.transport).run.run
    ⟨Scripted.session, ⟨{ fates := [.lost true] }, []⟩⟩).2

end Faulty

/-! ## Runs -/

/-- **No operation leaves the session believing in a context that is not there.** -/
theorem perform_justified (hd : c.Justified d) (op : Operation) :
    Ensures (op.perform c.transport) d fun _ d' => c.Justified d' := by
  cases op with
  | establish => exact .noLog ((establish_justified hd).mono fun _ _ h _ _ => h)
  | readLog => exact .log ((readLog_observed hd).mono fun _ _ h => h.2)
  | readLogUnchecked => exact .log ((readLogUnchecked_observed hd).mono fun _ _ h => h.2)
  | checkContext => exact .noLog ((checkContext_observed hd).mono fun _ _ h _ _ => h.1.2)
  | release => exact .noLog (release_justified.mono fun _ _ h _ _ => h)
  | retrieve => exact .log (retrieve_justified hd)

/-- **Every dialogue that operations lead to is justified**, if nobody else touches the context. -/
theorem Reaches.justified (h : Reaches c.transport c.Alone d) : c.Justified d := by
  induction h with
  | new h w => exact .of_fresh (Session.fresh_new h)
  | probe h => exact .of_fresh (fresh_probe h)
  | perform op _ ih => exact perform_justified ih op
  | idle _ hw ih => exact fun hs => hw.trans (ih hs)

/-- **The belief of a session is right**: whenever it believes that there is a reporting context, the controller has
one. Asking whether there is one never changes that, and a definite answer is true. -/
theorem belief_sound (c : ExclusiveController σ) {d : Dialogue σ} (h : Reaches c.transport c.Alone d) :
    (d.session.state = .established → c.presentIn d = true) ∧
      ∀ r d', (checkContext c.transport).run.run d = (r, d') → c.presentIn d' = c.presentIn d ∧
        ∀ state, r = .ok state → d'.session.state = state ∧ (state = .established → c.presentIn d' = true)
          ∧ (state = .notEstablished → c.presentIn d' = false) := by
  refine ⟨h.justified, fun r d' hrun => ?_⟩
  have hasked := checkContext_observed h.justified
  unfold Ensures at hasked
  rw [hrun] at hasked
  exact ⟨hasked.1.1, hasked.2⟩

/-- A session that did not hear of its own context learns of it. -/
theorem belief_sound_unheard : Faulty.unheard.session.state = .unknown ∧
    ∃ d, (checkContext Faulty.controller.transport).run.run Faulty.unheard = (.ok .established, d) ∧
      d.session.state = .established ∧ Faulty.controller.presentIn d = true := by
  have hreaches : Reaches Faulty.controller.transport Faulty.controller.Alone Faulty.unheard :=
    .perform .establish (.new Scripted.session_new _)
  have hrun : Faulty.unheard.session.state = .unknown
      ∧ ((checkContext Faulty.controller.transport).run.run Faulty.unheard).1 = .ok .established := by decide +kernel
  rcases hasked : (checkContext Faulty.controller.transport).run.run Faulty.unheard with ⟨r, d⟩
  rw [hasked] at hrun
  obtain ⟨hunknown, rfl⟩ := hrun
  obtain ⟨-, hstate⟩ := (belief_sound Faulty.controller hreaches).2 _ d hasked
  obtain ⟨hestablished, hpresent, -⟩ := hstate _ rfl
  exact ⟨hunknown, d, rfl, hestablished, hpresent rfl⟩

end StorageCommands.EventLog
