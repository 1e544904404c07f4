import StorageCommands.Proofs.Linux.Replug
import StorageCommands.Proofs.Nvme.Completion

/-!
# Device files as transports

A transport succeeds exactly if it has recorded a completion. On a device file this takes a kernel that says -1 for a
request that failed, and no other negative number (`System.ReportsFailures`). The file may be looked for and opened
again before the request, and all of this may fail.

- `execute_controls`: the kernel gets one request or none, and its reply decides the answer (`answerTo`).
- `transport_contract`: a command without a completion either gets one from the one reply, or an error.
-/

namespace StorageCommands.Linux

open Nvme

variable {σ φ : Type}

/-! ## Requests and replies -/

/-- A request that failed returns -1, and every other one a number that is not negative. -/
def System.ReportsFailures (sys : System σ φ) : Prop :=
  ∀ file code request d s, let returned := (sys.control file code request d s).1.returned; returned = -1 ∨ 0 ≤ returned

/-- The control request of a group that reads and writes an argument of a size. -/
def readWriteCode (group number : UInt8) (size : Nat) : UInt32 :=
  (3 : UInt32) <<< 30 ||| UInt32.ofNat size <<< 16 ||| group.toUInt32 <<< 8 ||| number.toUInt32

/-- The numbers of the control requests for admin and for I/O commands. -/
def requestNumber : Opcode → UInt8
  | .admin _ => 0x41
  | .io _ => 0x43

theorem requestCode_eq (op : Opcode) (r : Request) :
    requestCode op = readWriteCode 0x4e (requestNumber op) r.toBytes.length := by
  have hlength : r.toBytes.length = 72 := rfl
  rw [hlength]
  cases op with
  | admin _ =>
    have hadmin : (0xc0484e41 : UInt32) = readWriteCode 0x4e 0x41 72 := by decide
    exact hadmin
  | io _ =>
    have hio : (0xc0484e43 : UInt32) = readWriteCode 0x4e 0x43 72 := by decide
    exact hio

/-- The reply that a call gets, if it hands a command to the kernel. -/
def SystemCall.reply? (sys : System σ φ) (d : CommandDescriptor) : SystemCall σ φ → Option Reply
  | .control s file code request => some (sys.control file code request d s).1
  | .openFile .. | .identify .. => none

/-- The replies of the kernel while a command is executed. -/
def replies (sys : System σ φ) (d : CommandDescriptor) (w : World (Host σ φ)) : List Reply :=
  (systemCalls sys d w).filterMap (SystemCall.reply? sys d)

/-- The answer that is made of a reply. -/
def answerTo (d : CommandDescriptor) (reply : Reply) : Answer :=
  let written := [.writeData reply.data, .writeMetadata reply.metadata]
  if reply.returned = -1 then
    { effects := written, result := .error (.requestFailed (.errno (Errno.known reply.errno))) }
  else
    { effects := written ++ [.complete ⟨statusOf reply.returned, reply.result⟩],
      result := if d.isCompleted then .error .alreadyExecuted else .ok () }

/-! ## Executing -/

variable (sys : System σ φ) {d : CommandDescriptor}

theorem Looks.of_error {device device' : Device φ} {s s' : σ} {calls : List (SystemCall σ φ)} {e : TransportError}
    (h : Looks sys device s calls (.error e) device' s') : ∃ path cause, e = .notReopened path cause := by
  cases h with
  | unseen _ | unopened _ _ _ => exact ⟨_, _, rfl⟩

/-- Looking for another device hands nothing to the kernel, and fails for another device only. -/
theorem checkReplug_controls (d : CommandDescriptor) (w : World (Host (Traced σ φ) φ)) :
    ∃ calls, (checkReplug sys.traced w).2.device.system.calls = w.device.system.calls ++ calls
      ∧ (∀ c ∈ calls, c.reply? sys d = none)
      ∧ ∀ e, (checkReplug sys.traced w).1 = .error e → ∃ path cause, e = .notReopened path cause := by
  cases hdetect : w.device.device.options.detectReplug with
  | false =>
    have hnothing : checkReplug sys.traced w = (.ok (), w) := by simp [checkReplug, hdetect]
    rw [hnothing]
    exact ⟨[], (List.append_nil _).symm, List.forall_mem_nil _, fun e he => by cases he⟩
  | true =>
    obtain ⟨calls, hcalls, hlooks⟩ := checkReplug_looks sys w hdetect
    refine ⟨calls, hcalls, fun c hc => ?_, fun e he => ?_⟩
    · cases c with
      | control s file code request => exact absurd hc hlooks.control_not_mem
      | openFile _ _ _ | identify _ _ => rfl
    · rw [he] at hlooks
      exact hlooks.of_error

/-- A command that can be described is handed to the kernel, and answered by the reply. -/
theorem submit_answer (hfits : Describable d) (w : World (Host σ φ)) :
    (submit sys d w).1 = answerTo d (sys.control w.device.device.file (requestCode d.opcode)
      (Request.ofCommand d (sys.placement d)) d w.device.system).1 := by
  unfold submit
  have hmetadata : ¬0x100000000 ≤ d.metadataLength := Nat.not_le.2 hfits.1
  have hdata : ¬0x100000000 ≤ d.dataLength := Nat.not_le.2 hfits.2
  rw [if_neg hmetadata, if_neg hdata, answerTo]
  rcases hreply : sys.control w.device.device.file (requestCode d.opcode) (Request.ofCommand d (sys.placement d)) d
    w.device.system with ⟨reply, s⟩
  simp only [hreply]
  by_cases hfailed : reply.returned = -1
  · rw [if_pos hfailed, if_pos hfailed]
  · rw [if_neg hfailed, if_neg hfailed]

/-- **Executing a command**: the kernel gets nothing, as another device cannot be opened, or it gets one request, and
its reply is the answer. -/
theorem execute_controls (hfits : Describable d) (w : World (Host σ φ)) :
    (∃ path cause, (execute sys d w).1 = { result := .error (.notReopened path cause) }
        ∧ ∀ c ∈ systemCalls sys d w, c.reply? sys d = none)
      ∨ ∃ calls s file,
        let request := Request.ofCommand d (sys.placement d)
        systemCalls sys d w = calls ++ [.control s file (requestCode d.opcode) request]
          ∧ (∀ c ∈ calls, c.reply? sys d = none)
          ∧ (execute sys d w).1 = answerTo d (sys.control file (requestCode d.opcode) request d s).1 := by
  have hplain : execute sys d w = _ := execute_of_extends (traced_extends sys) d (traced w)
  obtain ⟨calls, hcalls, hnone, herror⟩ := checkReplug_controls sys d (traced w)
  rw [hplain, systemCalls]
  unfold execute
  generalize checkReplug sys.traced (traced w) = checked at hcalls herror ⊢
  obtain ⟨r, w'⟩ := checked
  have hmade : w'.device.system.calls = calls := hcalls
  cases r with
  | error e =>
    obtain ⟨path, cause, rfl⟩ := herror e rfl
    exact Or.inl ⟨path, cause, rfl, hmade ▸ hnone⟩
  | ok u =>
    obtain ⟨hcontrol, -⟩ := submit_traced sys d w'
    rw [hmade, controlCalls, if_pos hfits] at hcontrol
    exact Or.inr ⟨calls, w'.device.system.state, w'.device.device.file, hcontrol, hnone,
      submit_answer sys.traced hfits w'⟩

/-! ## The contract -/

theorem toNat_statusOf {returned : Int} (h : 0 ≤ returned) :
    (statusOf returned).raw.toNat = returned.toNat % 2 ^ 16 := by
  rw [statusOf, UInt16.toNat_ofNat']
  omega

/-- A reply gives a command a completion if the request did not fail. -/
theorem answerTo_completion (hd : d.completion = none) (reply : Reply) :
    (d.afterAll (answerTo d reply).effects).completion
      = if reply.returned = -1 then none else some ⟨statusOf reply.returned, reply.result⟩ := by
  rw [CommandDescriptor.afterAll_completion, hd, Option.none_or, answerTo]
  by_cases hfailed : reply.returned = -1
  · rw [if_pos hfailed, if_pos hfailed]
    rfl
  · rw [if_neg hfailed, if_neg hfailed]
    rfl

/-- What comes of a command, by the replies of the kernel. -/
structure Honoured (replies : List Reply) (answer : Answer) (outcome : CommandDescriptor) : Prop where
  once : replies.length ≤ 1
  delivered : answer.result = .ok () ↔ ∃ reply ∈ replies, 0 ≤ reply.returned
  completed : ∀ reply ∈ replies, 0 ≤ reply.returned → ∃ c, outcome.completion = some c
    ∧ c.status.raw.toNat = reply.returned.toNat % 2 ^ 16 ∧ c.result = reply.result
  undelivered : ∀ e, answer.result = .error e → outcome.completion = none
    ∧ ((replies = [] ∧ ∃ path cause, e = .notReopened path cause)
      ∨ ∃ reply ∈ replies, reply.returned = -1 ∧ e = .requestFailed (.errno (Errno.known reply.errno)))

theorem honoured_nil (hd : d.completion = none) (path : String) (cause : SystemError) :
    Honoured [] { result := .error (.notReopened path cause) } d where
  once := Nat.zero_le 1
  delivered := ⟨fun h => (by cases h), fun ⟨_, h, _⟩ => absurd h List.not_mem_nil⟩
  completed := List.forall_mem_nil _
  undelivered e he := by cases he; exact ⟨hd, .inl ⟨rfl, path, cause, rfl⟩⟩

theorem honoured_answerTo (hd : d.completion = none) {reply : Reply} (h : reply.returned = -1 ∨ 0 ≤ reply.returned) :
    Honoured [reply] (answerTo d reply) (d.afterAll (answerTo d reply).effects) := by
  have hcompletion := answerTo_completion hd reply
  have hpending : d.isCompleted = false := Bool.eq_false_iff.2 (CommandDescriptor.not_isCompleted hd)
  rcases h with hfailed | hok
  · have hneg : ¬0 ≤ reply.returned := by rw [hfailed]; decide
    rw [if_pos hfailed] at hcompletion
    have hresult : (answerTo d reply).result = .error (.requestFailed (.errno (Errno.known reply.errno))) := by
      rw [answerTo, if_pos hfailed]
    refine ⟨Nat.le_refl 1, ?_, ?_, fun e he => ?_⟩
    · rw [hresult]
      exact ⟨fun h => (by cases h), fun ⟨x, hx, hle⟩ => absurd (List.mem_singleton.1 hx ▸ hle) hneg⟩
    · intro x hx hle
      exact absurd (List.mem_singleton.1 hx ▸ hle) hneg
    · rw [hresult] at he
      cases he
      exact ⟨hcompletion, .inr ⟨reply, List.mem_singleton_self reply, hfailed, rfl⟩⟩
  · have hne : reply.returned ≠ -1 := by omega
    rw [if_neg hne] at hcompletion
    have hresult : (answerTo d reply).result = .ok () := by rw [answerTo, if_neg hne, hpending]; rfl
    refine ⟨Nat.le_refl 1, ⟨fun _ => ⟨reply, List.mem_singleton_self reply, hok⟩, fun _ => hresult⟩, ?_, fun e he => ?_⟩
    · intro x hx _
      obtain rfl := List.mem_singleton.1 hx
      exact ⟨_, hcompletion, toNat_statusOf hok, rfl⟩
    · rw [hresult] at he
      cases he

theorem execute_honoured (hsys : sys.ReportsFailures) (hd : d.completion = none) (hfits : Describable d)
    (w : World (Host σ φ)) :
    Honoured (replies sys d w) (execute sys d w).1 (d.afterAll (execute sys d w).1.effects) := by
  rcases execute_controls sys hfits w with ⟨path, cause, hanswer, hnone⟩ | ⟨calls, s, file, hcalls, hnone, hanswer⟩
  · have hreplies : replies sys d w = [] := List.filterMap_eq_nil_iff.2 hnone
    rw [hreplies, hanswer]
    exact honoured_nil hd path cause
  · have hreplies : replies sys d w
        = [(sys.control file (requestCode d.opcode) (Request.ofCommand d (sys.placement d)) d s).1] := by
      rw [replies, hcalls, List.filterMap_append, List.filterMap_eq_nil_iff.2 hnone]
      rfl
    rw [hreplies, hanswer]
    exact honoured_answerTo hd (hsys ..)

/-- An error of a command that is issued is one of executing it. -/
theorem issue_error (hsys : sys.ReportsFailures) (hd : d.completion = none) (hfits : Describable d)
    (w : World (Host σ φ))
    {e : TransportError} (h : (issue (transport sys) d w).1 = .error e) :
    (∃ path cause, e = .notReopened path cause) ∨ ∃ cause, e = .requestFailed cause := by
  -- the world in which the command is executed has the event of issuing it in its log
  have hhonoured := execute_honoured sys hsys hd hfits (w.note d.issuing)
  obtain ⟨-, hjudged⟩ := issue_judged (transport sys) hd w
  cases hresult : (execute sys d (w.note d.issuing)).1.result with
  | error e' =>
    cases h.symm.trans (hjudged.undelivered e' hresult)
    rcases (hhonoured.undelivered e hresult).2 with ⟨-, path, cause, rfl⟩ | ⟨reply, -, -, rfl⟩
    · exact .inl ⟨path, cause, rfl⟩
    · exact .inr ⟨_, rfl⟩
  | ok u =>
    obtain ⟨reply, hreply, hle⟩ := hhonoured.delivered.1 hresult
    obtain ⟨c, hc, -⟩ := hhonoured.completed reply hreply hle
    cases h.symm.trans ((hjudged.status c.status).2 ⟨hresult, c, hc, rfl⟩)

/-- **A device file keeps the contract of transports**, whatever its state and whatever the system does, for a command
that has no completion and whose buffers can be described.

The kernel gets at most one request, the one for admin commands or the one for I/O commands. The transport succeeds
exactly if the kernel replied that the request did not fail; then the command has the completion of the reply. If not,
the command has none, and the error says that another device could not be opened or that the request failed. So a
command that is issued never comes back as not completed, or as executed already. -/
theorem transport_contract (hsys : sys.ReportsFailures) (hd : d.completion = none) (hfits : Describable d)
    (w : World (Host σ φ)) :
    (∀ s file code request, .control s file code request ∈ systemCalls sys d w →
        code = readWriteCode 0x4e (requestNumber d.opcode) request.toBytes.length)
      ∧ Honoured (replies sys d w) (execute sys d w).1 (d.afterAll (execute sys d w).1.effects)
      ∧ (issue (transport sys) d w).1 ≠ .error .notCompleted
      ∧ (issue (transport sys) d w).1 ≠ .error .alreadyExecuted := by
  refine ⟨fun s file code request hmem => ?_, execute_honoured sys hsys hd hfits w, fun h => ?_, fun h => ?_⟩
  · rcases execute_controls sys hfits w with ⟨-, -, -, hnone⟩ | ⟨calls, s', file', hcalls, hnone, -⟩
    · cases hnone _ hmem
    · rw [hcalls, List.mem_append, List.mem_singleton] at hmem
      rcases hmem with hmem | hmem
      · cases hnone _ hmem
      · cases hmem
        exact requestCode_eq _ _
  · rcases issue_error sys hsys hd hfits w h with ⟨_, _, he⟩ | ⟨_, he⟩ <;> cases he
  · rcases issue_error sys hsys hd hfits w h with ⟨_, _, he⟩ | ⟨_, he⟩ <;> cases he

/-- A system that answers every request in the same way. -/
def answering (reply : Reply) : System (List Plug) Identity := { plugs id with control := fun _ _ _ _ s => (reply, s) }

theorem answering_reportsFailures {reply : Reply} (h : reply.returned = -1 ∨ 0 ≤ reply.returned) :
    (answering reply).ReportsFailures :=
  fun _ _ _ _ _ => h

/-- A device that has been replaced is opened again, and the command gets the low 16 bits of what the kernel returns. A
request that fails gives it no completion. -/
theorem transport_contract_replaced : (let w : World (Host (List Plug) Identity) :=
      ⟨⟨⟨"nvme0", firstPlug.identity, firstPlug.identity, {}⟩, [secondPlug]⟩, []⟩
    let answered := (execute (answering { result := 7, returned := 0x14002 }) keepAlive w).1
    let failed := (execute (answering { returned := -1, errno := Errno.accessDenied }) keepAlive w).1
    answered.result = .ok ()
      ∧ (∃ c, (keepAlive.afterAll answered.effects).completion = some c ∧ c.status.raw.toNat = 0x4002 ∧ c.result = 7)
      ∧ failed.result ≠ .ok () ∧ (keepAlive.afterAll failed.effects).completion = none) := by
  intro w answered failed
  have hok : (0 : Int) ≤ 0x14002 := by decide
  have hreports := @answering_reportsFailures { result := 7, returned := 0x14002 } (.inr hok)
  have hreports' := @answering_reportsFailures { returned := -1, errno := Errno.accessDenied } (.inl rfl)
  obtain ⟨-, hanswered, -⟩ := transport_contract _ hreports (d := keepAlive) rfl (by decide) w
  obtain ⟨-, hfailed, -⟩ := transport_contract _ hreports' (d := keepAlive) rfl (by decide) w
  -- the replies of the two systems
  have hmem := List.mem_singleton_self ({ result := 7, returned := 0x14002 } : Reply)
  have hreply : ∀ reply ∈ replies (answering { returned := -1, errno := Errno.accessDenied }) keepAlive w,
      reply = { returned := -1, errno := Errno.accessDenied } := fun reply h => List.mem_singleton.1 h
  have hnot : failed.result ≠ .ok () := fun h => by
    obtain ⟨reply, hin, hle⟩ := hfailed.delivered.1 h
    rw [hreply reply hin] at hle
    exact absurd hle (by decide)
  refine ⟨hanswered.delivered.2 ⟨_, hmem, hok⟩, hanswered.completed _ hmem hok, hnot, ?_⟩
  cases hresult : failed.result with
  | ok u => exact absurd hresult hnot
  | error e => exact (hfailed.undelivered e hresult).1

end StorageCommands.Linux
