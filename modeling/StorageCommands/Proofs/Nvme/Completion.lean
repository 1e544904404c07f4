import StorageCommands.Proofs.Nvme.Execution

/-!
# A completion is recorded once

A command can be put on transports again and again, and its owner can write to its buffers and record a completion in
between (`Use`). All that is done to it is a list of effects (`Uses.effects`). The first completion among them stays
(`afterAll_completion`), and nothing else of the command changes but the bytes in its buffers (`alike_afterAll`).

- `issue_judged`: what comes of issuing a command that has no completion.
- `completion_recorded_once`: what is kept by all uses of a command, whatever the transports do. At most one of them
  gives a status, which is the one that was recorded first.
- `notCompleted_passed_on`: a transport can fail for want of another command's completion.
-/

namespace StorageCommands.Nvme

/-! ## Effects -/

/-- The completion that an effect records, if there is none yet. -/
def Effect.completion? : Effect → Option Completion
  | .complete c => some c
  | .writeData _ => none
  | .writeMetadata _ => none

namespace CommandDescriptor

/-- Two commands differ in nothing but the contents of their buffers and their completions. -/
structure Alike (d d' : CommandDescriptor) : Prop where
  opcode : d'.opcode = d.opcode
  nsid : d'.nsid = d.nsid
  cdw2 : d'.cdw2 = d.cdw2
  cdw3 : d'.cdw3 = d.cdw3
  words : d'.words = d.words
  timeout : d'.timeout = d.timeout
  dataLength : d'.dataLength = d.dataLength

theorem Alike.refl (d : CommandDescriptor) : d.Alike d := ⟨rfl, rfl, rfl, rfl, rfl, rfl, rfl⟩

theorem Alike.trans {d d' d'' : CommandDescriptor} (h : d.Alike d') (h' : d'.Alike d'') : d.Alike d'' :=
  ⟨h'.opcode.trans h.opcode, h'.nsid.trans h.nsid, h'.cdw2.trans h.cdw2, h'.cdw3.trans h.cdw3, h'.words.trans h.words,
    h'.timeout.trans h.timeout, h'.dataLength.trans h.dataLength⟩

theorem alike_after (d : CommandDescriptor) (e : Effect) : d.Alike (d.after e) := by
  cases e with
  | writeData bytes =>
    refine ⟨rfl, rfl, rfl, rfl, rfl, rfl, ?_⟩
    simp only [dataLength, after, writeData]
    cases d.transfer <;> rfl
  | writeMetadata bytes => exact ⟨rfl, rfl, rfl, rfl, rfl, rfl, rfl⟩
  | complete c =>
    simp only [after, complete?]
    split
    · exact .refl d
    · exact ⟨rfl, rfl, rfl, rfl, rfl, rfl, rfl⟩

/-- **Effects leave all but buffers and completion alone.** -/
theorem alike_afterAll (d : CommandDescriptor) (effects : List Effect) : d.Alike (d.afterAll effects) := by
  induction effects generalizing d with
  | nil => exact .refl d
  | cons e effects ih => exact (d.alike_after e).trans (ih _)

theorem after_completion (d : CommandDescriptor) (e : Effect) :
    (d.after e).completion = d.completion.or e.completion? := by
  cases e with
  | writeData bytes => exact (Option.or_none).symm
  | writeMetadata bytes => exact (Option.or_none).symm
  | complete c =>
    cases hd : d.completion with
    | none => simp [after, complete?, isCompleted, hd, Effect.completion?]
    | some c' => simp [after, complete?, isCompleted, hd]

/-- **The first completion stays.** -/
theorem afterAll_completion (d : CommandDescriptor) (effects : List Effect) :
    (d.afterAll effects).completion = d.completion.or (effects.findSome? Effect.completion?) := by
  induction effects generalizing d with
  | nil => exact (Option.or_none).symm
  | cons e effects ih =>
    have hrest : (d.afterAll (e :: effects)).completion = ((d.after e).afterAll effects).completion := rfl
    rw [hrest, ih, after_completion, Option.or_assoc, List.findSome?_cons]
    cases e.completion? <;> rfl

end CommandDescriptor

/-! ## One issue -/

variable {σ : Type}

/-- What is made of the answer of a transport, given the command as the transport left it. -/
structure Answer.Judged (answer : Answer) (outcome : CommandDescriptor) (r : Except TransportError StatusWord) :
    Prop where
  /-- An error of the transport is passed on. -/
  undelivered : ∀ e, answer.result = .error e → r = .error e
  /-- The transport recorded no completion, or failed with that error itself. -/
  notCompleted : r = .error .notCompleted ↔
    answer.result = .ok () ∧ outcome.completion = none ∨ answer.result = .error .notCompleted
  status : ∀ s, r = .ok s ↔ answer.result = .ok () ∧ ∃ c, outcome.completion = some c ∧ s = c.status

/-- **Issuing a command** that has no completion. -/
theorem issue_judged (t : Transport σ) {d : CommandDescriptor} (hd : d.completion = none) (w : World σ) :
    let answer := (t.execute d (w.note d.issuing)).1
    (issue t d w).2.1 = d.afterAll answer.effects ∧ answer.Judged (d.afterAll answer.effects) (issue t d w).1 := by
  intro answer
  rcases hx : t.execute d (w.note d.issuing) with ⟨⟨effects, result⟩, w'⟩
  have hanswer : answer = ⟨effects, result⟩ := congrArg Prod.fst hx
  rw [hanswer, issue, if_neg (CommandDescriptor.not_isCompleted hd), hx]
  cases result with
  | error e =>
    refine ⟨rfl, fun e' he => ?_, ?_, fun s => ?_⟩
    · cases he
      rfl
    · refine ⟨fun h => ?_, fun h => ?_⟩
      · cases h
        exact Or.inr rfl
      · rcases h with ⟨hok, -⟩ | he
        · cases hok
        · cases he
          rfl
    · exact ⟨fun hs => (by cases hs), fun hs => by cases hs.1⟩
  | ok u =>
    dsimp only
    cases hc : (d.afterAll effects).completion with
    | none =>
      refine ⟨rfl, fun e he => (by cases he), ⟨fun _ => Or.inl ⟨rfl, hc⟩, fun _ => rfl⟩, fun s => ?_⟩
      refine ⟨fun hs => (by cases hs), ?_⟩
      rintro ⟨-, c, hsome, -⟩
      cases hc.symm.trans hsome
    | some c =>
      refine ⟨rfl, fun e he => (by cases he), ?_, fun s => ?_⟩
      · refine ⟨fun hs => (by cases hs), fun h => ?_⟩
        rcases h with ⟨-, hnone⟩ | he
        · cases hc.symm.trans hnone
        · cases he
      · refine ⟨fun hs => ?_, ?_⟩
        · cases hs
          exact ⟨rfl, c, hc, rfl⟩
        · rintro ⟨-, c', hsome, rfl⟩
          cases hc.symm.trans hsome
          rfl

/-- A command that cannot be executed any more: no transport is given it, and nothing changes. -/
structure CommandDescriptor.Spent (d : CommandDescriptor) : Prop where
  issue : ∀ {σ : Type} (t : Transport σ) (w : World σ), Nvme.issue t d w = (.error .alreadyExecuted, d, w)
  run : ∀ {σ : Type} (t : Transport σ) (w : World σ), Nvme.run t d w = (.error (.transport .alreadyExecuted), d, w)
  executions : ∀ c : Call, c.executions d = []

theorem CommandDescriptor.spent_of_isCompleted {d : CommandDescriptor} (hd : d.isCompleted = true) : d.Spent where
  issue t w := issue_completed t w hd
  run t w := by rw [Nvme.run, issue_completed t w hd]
  executions c := (c.of_completed hd).1

/-! ## One use -/

/-- What is done with a command: it is put on a transport, or its owner does something to it. -/
inductive Use : Type 1
  | call (c : Call)
  | touch (e : Effect)

namespace Use

/-- The command after a use. -/
def leaves (d : CommandDescriptor) : Use → CommandDescriptor
  | call c => c.leaves d
  | touch e => d.after e

/-- All that a use does to the command. -/
def effects (d : CommandDescriptor) : Use → List Effect
  | call c => (c.executions d).flatMap fun e => e.answer.effects
  | touch e => [e]

/-- The status that comes of issuing the command. -/
def status? (d : CommandDescriptor) : Use → Option StatusWord
  | call c => (issue c.transport d c.world).1.toOption
  | touch _ => none

theorem leaves_eq (u : Use) (d : CommandDescriptor) : u.leaves d = d.afterAll (u.effects d) := by
  cases u with
  | touch e => rfl
  | call c =>
    rw [leaves, effects]
    cases hd : d.completion with
    | some completion =>
      obtain ⟨hnone, hsame⟩ := c.of_completed (CommandDescriptor.isCompleted_of_some hd)
      rw [hnone, hsame]
      rfl
    | none =>
      obtain ⟨e, he, hcommand, hleaves⟩ := c.of_pending hd
      rw [he, hleaves, Exchange.outcome, hcommand, List.flatMap_singleton]

theorem status?_of_completed (u : Use) {d : CommandDescriptor} (hd : d.isCompleted = true) : u.status? d = none := by
  cases u with
  | touch e => rfl
  | call c => rw [status?, issue_completed _ _ hd]; rfl

/-- A status is the one of the completion with which the command comes back. -/
theorem status?_eq_some {u : Use} {d : CommandDescriptor} {s : StatusWord} (h : u.status? d = some s) :
    d.completion = none ∧ ∃ c, (u.leaves d).completion = some c ∧ s = c.status := by
  cases u with
  | touch e => cases h
  | call c =>
    cases hd : d.completion with
    | some completion =>
      rw [status?_of_completed _ (CommandDescriptor.isCompleted_of_some hd)] at h
      cases h
    | none =>
      obtain ⟨houtcome, hjudged⟩ := issue_judged c.transport hd c.world
      have hok : (issue c.transport d c.world).1 = .ok s := by
        rw [status?] at h
        cases hr : (issue c.transport d c.world).1 with
        | error e => rw [hr] at h; cases h
        | ok s' => rw [hr] at h; cases h; rfl
      obtain ⟨-, completion, hsome, hs⟩ := (hjudged.status s).1 hok
      refine ⟨rfl, completion, ?_, hs⟩
      rw [leaves, Call.leaves, Way.deliver_eq, houtcome]
      exact hsome

end Use

/-! ## All uses -/

namespace Uses

/-- The command after uses, in order. -/
def outcome (uses : List Use) (d : CommandDescriptor) : CommandDescriptor := uses.foldl Use.leaves d

/-- All that is done to the command, in order. -/
def effects : List Use → CommandDescriptor → List Effect
  | [], _ => []
  | u :: uses, d => u.effects d ++ effects uses (u.leaves d)

/-- The statuses that come of issuing the command, in order. -/
def statuses : List Use → CommandDescriptor → List StatusWord
  | [], _ => []
  | u :: uses, d => (u.status? d).toList ++ statuses uses (u.leaves d)

/-- The completion that is recorded first. -/
def firstCompletion (uses : List Use) (d : CommandDescriptor) : Option Completion :=
  (effects uses d).findSome? Effect.completion?

theorem outcome_eq (uses : List Use) (d : CommandDescriptor) : outcome uses d = d.afterAll (effects uses d) := by
  induction uses generalizing d with
  | nil => rfl
  | cons u uses ih =>
    have hrest : outcome (u :: uses) d = outcome uses (u.leaves d) := rfl
    rw [hrest, ih, u.leaves_eq, effects, CommandDescriptor.afterAll, CommandDescriptor.afterAll,
      CommandDescriptor.afterAll, List.foldl_append, u.leaves_eq, CommandDescriptor.afterAll]

theorem completion_outcome (uses : List Use) (d : CommandDescriptor) :
    (outcome uses d).completion = d.completion.or (firstCompletion uses d) := by
  rw [outcome_eq, CommandDescriptor.afterAll_completion, firstCompletion]

theorem statuses_of_completed (uses : List Use) {d : CommandDescriptor} (hd : d.isCompleted = true) :
    statuses uses d = [] := by
  induction uses generalizing d with
  | nil => rfl
  | cons u uses ih =>
    cases hc : d.completion with
    | none => exact absurd hd (CommandDescriptor.not_isCompleted hc)
    | some c =>
      have hkept : (u.leaves d).completion = some c := by
        rw [u.leaves_eq, CommandDescriptor.afterAll_completion, hc, Option.some_or]
      rw [statuses, u.status?_of_completed hd, ih (CommandDescriptor.isCompleted_of_some hkept)]
      rfl

/-- **At most one use gives a status**, that of the completion recorded first. -/
theorem statuses_cases (uses : List Use) (d : CommandDescriptor) : statuses uses d = []
    ∨ d.completion = none ∧ ∃ c, firstCompletion uses d = some c ∧ statuses uses d = [c.status] := by
  induction uses generalizing d with
  | nil => exact Or.inl rfl
  | cons u uses ih =>
    have hfirst : firstCompletion (u :: uses) d
        = ((u.effects d).findSome? Effect.completion?).or (firstCompletion uses (u.leaves d)) := by
      rw [firstCompletion, effects, List.findSome?_append, firstCompletion]
    have hleaves : (u.leaves d).completion = d.completion.or ((u.effects d).findSome? Effect.completion?) := by
      rw [u.leaves_eq, CommandDescriptor.afterAll_completion]
    cases hs : u.status? d with
    | some s =>
      obtain ⟨hnone, c, hc, rfl⟩ := Use.status?_eq_some hs
      rw [hc, hnone, Option.none_or] at hleaves
      refine Or.inr ⟨hnone, c, ?_, ?_⟩
      · rw [hfirst, ← hleaves, Option.some_or]
      · rw [statuses, hs, statuses_of_completed _ (CommandDescriptor.isCompleted_of_some hc)]
        rfl
    | none =>
      rw [statuses, hs, Option.toList_none, List.nil_append]
      rcases ih (u.leaves d) with hnil | ⟨hnone, c, hc, hstatuses⟩
      · exact Or.inl hnil
      · rw [hnone, eq_comm, Option.or_eq_none_iff] at hleaves
        refine Or.inr ⟨hleaves.1, c, ?_, hstatuses⟩
        rw [hfirst, hleaves.2, Option.none_or, hc]

end Uses

/-- **A completion is recorded once**, whatever is done with a command and whatever the transports do to it.

The completion is the first that was recorded and stays, and all but the contents of the buffers stays the same. At most
one use gives a status, that of the first completion. While the command has no completion, issuing it gives the error of
the transport if there is one. It says that there is no completion exactly if the transport reported success and
recorded none, or failed with just that error. Once there is a completion the command cannot be executed any more. -/
theorem completion_recorded_once (uses : List Use) (d : CommandDescriptor) :
    let outcome := Uses.outcome uses d
    d.Alike outcome
      ∧ (∀ c, d.completion = some c → outcome.completion = some c)
      ∧ outcome.completion = d.completion.or (Uses.firstCompletion uses d)
      ∧ (Uses.statuses uses d).length ≤ 1
      ∧ (∀ s ∈ Uses.statuses uses d, ∃ c, Uses.firstCompletion uses d = some c ∧ s.raw = c.status.raw)
      ∧ (outcome.isCompleted = true → outcome.Spent)
      ∧ ∀ {σ : Type} (t : Transport σ) (w : World σ), outcome.completion = none →
          let answer := (t.execute outcome (w.note outcome.issuing)).1
          (issue t outcome w).2.1 = outcome.afterAll answer.effects
            ∧ answer.Judged (outcome.afterAll answer.effects) (issue t outcome w).1 := by
  intro outcome
  have hcompletion := Uses.completion_outcome uses d
  refine ⟨?_, ?_, hcompletion, ?_, ?_, CommandDescriptor.spent_of_isCompleted, ?_⟩
  · have halike := d.alike_afterAll (Uses.effects uses d)
    rwa [← Uses.outcome_eq] at halike
  · intro c hc
    rw [hcompletion, hc, Option.some_or]
  · rcases Uses.statuses_cases uses d with hnil | ⟨-, c, -, hone⟩
    · rw [hnil]
      exact Nat.zero_le 1
    · rw [hone]
      exact Nat.le_refl 1
  · intro s hs
    rcases Uses.statuses_cases uses d with hnil | ⟨-, c, hfirst, hone⟩
    · rw [hnil] at hs
      cases hs
    · rw [hone] at hs
      exact ⟨c, hfirst, congrArg StatusWord.raw (List.mem_singleton.1 hs)⟩
  · intro σ t w hnone
    exact issue_judged t hnone w

/-- Puts a Keep Alive command on the transport before each command, and fails if that fails. -/
def Transport.keptAlive (t : Transport σ) : Transport σ where
  execute d w := match issue t keepAlive w with
    | (.error e, _, w) => (⟨[], .error e⟩, w)
    | (.ok _, _, w) => t.execute d w

/-- **Which command has no completion** is not told: over a device that records none, the command is not executed at
all, and the error is that of the Keep Alive command before it. -/
theorem notCompleted_passed_on : (let t := (Emulated.Fault.transport { misbehavior := .keepSilent }).keptAlive
    let w : World Unit := ⟨(), []⟩
    (t.execute keepAlive (w.note keepAlive.issuing)).1.result = .error .notCompleted
      ∧ (issue t keepAlive w).1 = .error .notCompleted)
    ∧ ¬∀ (t : Transport Unit) (d : CommandDescriptor) (w : World Unit), d.completion = none →
      ((issue t d w).1 = .error .notCompleted ↔
        (t.execute d (w.note d.issuing)).1.result = .ok () ∧ (issue t d w).2.1.completion = none) := by
  refine ⟨⟨rfl, rfl⟩, fun hall => ?_⟩
  have hsilent := hall (Emulated.Fault.transport { misbehavior := .keepSilent }).keptAlive keepAlive ⟨(), []⟩ rfl
  obtain ⟨hok, -⟩ := hsilent.1 rfl
  cases hok

end StorageCommands.Nvme
