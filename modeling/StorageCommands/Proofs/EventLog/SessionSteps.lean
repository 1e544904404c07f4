import StorageCommands.Proofs.EventLog.HeaderFields
import StorageCommands.Proofs.EventLog.InternalErrors
import StorageCommands.Proofs.EventLog.Scripted
import StorageCommands.Proofs.Nvme.Issuing

/-!
# Sessions step by step

The operations of a session are done here as a driver does them. Lengths and offsets are machine words; differences,
sums and roundings are calculated as such. Commands are built and issued step by step, the buffer is kept in pages, and
the bytes that were transferred are taken of its start. A step that does not get what it needs halts (`SessionWork`).

`Follows` says that work of a session does what an action does, without another halt than a report of it. Each operation
follows the one of the same name, in every dialogue that operations lead to: `session_arithmetic_safe`.
-/

namespace StorageCommands.EventLog

open Nvme Trace

variable {σ α β : Type}

namespace Stepwise

/-! ## Work of a session -/

/-- Work of a session that may halt. -/
abbrev SessionWork (σ α : Type) := ExceptT (Halt Error) (StateM (Dialogue σ)) α

/-- Does an action that calculates nothing and takes nothing of a byte string. -/
def plainly (x : SessionAction σ α) : SessionWork σ α := ExceptT.adapt .refused x

/-- Does work on numbers and byte strings. -/
def compute (x : Work Error α) : SessionWork σ α := ExceptT.mk (pure x)

/-- A report as a result. -/
def outcome : Except (Halt Error) α → Except (Halt Error) (Except Error α)
  | .ok a => .ok (.ok a)
  | .error (.refused e) => .ok (.error e)
  | .error h => .error h

/-- Does work, with what it reports as the result. -/
def attempt (x : SessionWork σ α) : SessionWork σ (Except Error α) := ExceptT.mk (outcome <$> x.run)

/-- Takes the first bytes of the session's buffer. -/
def window (n : Nat) : SessionWork σ {b : Bytes // b.length = n} := do
  compute (reported nofun ((← get).session.buffer.paged.leading n))

/-! ## Steps -/

/-- Builds the command that transfers a part of the log. -/
def command (s : Session) (action : ContextAction) (offset len : Nat) (buffer : DataBuffer) :
    Work BuildError CommandDescriptor := do
  let offset ← word offset
  GetLogPage.Stepwise.command
    { page := .persistentEvent
      parameter := action.code
      nsid := allNamespaces
      offset := UInt64.ofNat offset
      len
      timeout := s.config.timeout }
    (some buffer)

/-- Transfers a part of the log into the session's buffer, which is replaced if it is too short. -/
def getLog (t : Transport σ) (action : ContextAction) (offset len : Nat) : SessionWork σ StatusWord := do
  let s := (← get).session
  let buffer := if s.buffer.size < len then .zeroed len else s.buffer
  plainly (update fun s => { s with buffer })
  let command ← compute (reported .build (command s action offset len buffer))
  let (result, pages, world) ← compute (reported nofun (buffer.paged.issue t command (← get).world))
  plainly (modify fun d => { d with session.buffer := pages.view, world })
  match result with
  | .ok status =>
    plainly do
      note .trace "get log page"
        [("action", ContextAction.family.display action.code.toNat), ("offset", toString offset),
         ("len", toString len), ("outcome", status.text)]
      return status
  | .error e =>
    plainly do
      setState .unknown
      throw (.transport e)

/-- Rounds the length that a header reports up to whole units. -/
def alignedLength (h : Header) : Work Error (Option Nat) := do
  let reported := h.totalLogLength.toNat
  let units ← word (reported / lengthUnit + if reported % lengthUnit = 0 then 0 else 1)
  let len := max 1 units.1 * lengthUnit
  return if len < 2 ^ 64 then some len else none

/-- Reads the header, with which a read begins. -/
def readHeader (t : Transport σ) : SessionWork σ Progress := do
  let status ← getLog t .read 0 headerLength
  plainly (checkRead status 0)
  plainly (setState .established)
  let s := (← get).session
  let data ← window headerLength
  let header ← compute (reported .header (Header.Stepwise.decode data))
  let total? ← compute (alignedLength header)
  plainly do
    let reported := header.totalLogLength.toNat
    let tooLarge (len : Nat) : SessionAction σ Progress := do
      note .warn "persistent event log length out of range"
        [("total_log_length", toString reported), ("max", toString s.maxLogLength)]
      throw (.logTooLarge len)
    match total? with
    | none => tooLarge reported
    | some total =>
      if s.maxLogLength < total then tooLarge total
      else
        note .debug "persistent event log header"
          [("total_log_length", toString reported), ("total_len", toString total),
           ("events", toString header.totalEvents)]
        let p : Progress := { header, total, offset := headerLength, data }
        keepProgress p
        return p

/-- Reads the whole log in one transfer. -/
def readWhole (t : Transport σ) (p : Progress) : SessionWork σ Progress := do
  if p.total ≤ p.offset then return p
  if maxShortTransfer < p.total then throw (.refused (.logTooLarge p.total))
  let len ← compute (word p.total)
  let status ← getLog t .read 0 len
  plainly (checkRead status 0)
  let data ← window len
  return { p with data, offset := p.total }

/-- Reads the rest of the log in chunks. -/
def readChunks (t : Transport σ) (chunkSize : Nat) (pos : 0 < chunkSize) (p : Progress) : SessionWork σ Progress := do
  if _h : p.offset < p.total then
    let remaining ← compute (subtract p.total p.offset)
    let remaining' ← compute (word remaining)
    let len ← compute (roundUp (min remaining' chunkSize) 4)
    let status ← getLog t .read p.offset len
    plainly (checkRead status p.offset)
    let chunk ← window (min len remaining')
    let offset ← compute (word (p.offset + chunk.1.length))
    let next : Progress := { p with offset, data := p.data ++ chunk }
    plainly (keepProgress next)
    plainly (note .trace "persistent event log chunk" [("offset", toString next.offset), ("total", toString p.total)])
    readChunks t chunkSize pos next
  else
    return p
termination_by p.total - p.offset
decreasing_by
  -- a chunk is not empty: it has at least the smaller one of what remains and the chunk size
  omega

/-! ## Operations -/

/-- Makes the reporting context, or takes over one that is there. -/
def establish (t : Transport σ) : SessionWork σ Unit := do
  plainly dropProgress
  let status ← getLog t .establish 0 headerLength
  plainly do
    if status.isSuccess then
      setState .established
    else if status.isSequenceError then
      note .warn "reporting context already established" [("outcome", status.text)]
      setState .established
    else
      setState .unknown
      throw (.establishFailed status)

/-- Reads the log whatever the session believes about the context. -/
def readLogUnchecked (t : Transport σ) : SessionWork σ Log := do
  let p ← match (← get).session.progress with
    | some p => pure p
    | none => readHeader t
  let s := (← get).session
  let p ← if s.extended then readChunks t s.config.chunkSize s.chunkSize_pos p else readWhole t p
  let reported ← compute (word p.header.totalLogLength.toNat)
  plainly do
    dropProgress
    note .debug "read persistent event log"
      [("len", toString p.total), ("events", toString p.header.totalEvents)]
    return ⟨p.header, p.data.take reported⟩

/-- Reads the log if there is a context. -/
def readLog (t : Transport σ) : SessionWork σ Log := do
  match (← get).session.state with
  | .established => readLogUnchecked t
  | .notEstablished => throw (.refused .noContext)
  | .unknown => throw (.refused .unknownContext)

/-- Gives the context back. -/
def release (t : Transport σ) : SessionWork σ Unit := do
  let result ← attempt (getLog t .release 0 headerLength)
  plainly do
    setState .notEstablished
    match result with
    | .error e => throw e
    | .ok status => note .debug "released reporting context" [("outcome", status.text)]

/-- Asks the controller whether there is a context. -/
def checkContext (t : Transport σ) : SessionWork σ ContextState := do
  let status ← getLog t .read 0 headerLength
  plainly do
    let state ←
      if status.isSuccess then pure ContextState.established
      else if status.isSequenceError then pure ContextState.notEstablished
      else
        note .warn "context check failed" [("outcome", status.text)]
        pure ContextState.unknown
    setState state
    return state

/-- Establishes a context, reads the log, and releases the context even if the read fails. -/
def retrieve (t : Transport σ) : SessionWork σ Log := do
  establish t
  let log ← attempt (readLog t)
  let released ← attempt (release t)
  plainly do
    match released with
    | .error e => note .warn "failed to release reporting context" [("error", Reason.logText "error" e.chain)]
    | .ok () => pure ()
    match log with
    | .error e => throw e
    | .ok log => return log

/-- An operation, with the log that it gives. -/
def perform (t : Transport σ) : Operation → SessionWork σ (Option Log)
  | .establish => do establish t; return none
  | .readLog => do return some (← readLog t)
  | .readLogUnchecked => do return some (← readLogUnchecked t)
  | .checkContext => do let _ ← checkContext t; return none
  | .release => do release t; return none
  | .retrieve => do return some (← retrieve t)

end Stepwise

open Stepwise

/-! ## Following an action -/

/-- Work does what an action does, and halts only with a report of it. -/
def Follows (x : SessionWork σ α) (y : SessionAction σ α) (d : Dialogue σ) : Prop :=
  x.run.run d = ((y.run.run d).1.mapError .refused, (y.run.run d).2)

namespace Follows

variable {d : Dialogue σ}

theorem pure (a : α) : Follows (Pure.pure a) (Pure.pure a) d := rfl

theorem throw (e : Error) : Follows (throw (.refused e) : SessionWork σ α) (throw e) d := rfl

theorem plainly (y : SessionAction σ α) : Follows (Stepwise.plainly y) y d := rfl

/-- A sequence, by what the first step leaves behind. -/
theorem bind {x : SessionWork σ β} {y : SessionAction σ β} {f : β → SessionWork σ α} {g : β → SessionAction σ α}
    (hx : Follows x y d) (hf : Ensures y d fun r d' => ∀ b, r = .ok b → Follows (f b) (g b) d') :
    Follows (x >>= f) (y >>= g) d := by
  change (ExceptT.bindCont f (x.run.run d).1).run (x.run.run d).2
    = (((ExceptT.bindCont g (y.run.run d).1).run (y.run.run d).2).1.mapError .refused,
      ((ExceptT.bindCont g (y.run.run d).1).run (y.run.run d).2).2)
  rw [show x.run.run d = _ from hx]
  unfold Ensures at hf
  generalize y.run.run d = p at hf
  obtain ⟨r, d'⟩ := p
  cases r with
  | error e => rfl
  | ok b => exact hf b rfl

/-- The rest is done plainly. -/
theorem rest {x : SessionWork σ β} {y : SessionAction σ β} {g : β → SessionAction σ α} (hx : Follows x y d) :
    Follows (x >>= fun b => Stepwise.plainly (g b)) (y >>= g) d :=
  hx.bind fun b _ => plainly (g b)

theorem get {f : Dialogue σ → SessionWork σ α} {g : Dialogue σ → SessionAction σ α} (h : Follows (f d) (g d) d) :
    Follows (MonadState.get >>= f) (MonadState.get >>= g) d := h

theorem look {x : SessionWork σ α} {g : Dialogue σ → SessionAction σ α} (h : Follows x (g d) d) :
    Follows x (MonadState.get >>= g) d := h

/-- Work that changes nothing and does not halt. -/
theorem ahead {x : SessionWork σ β} {b : β} {f : β → SessionWork σ α} {y : SessionAction σ α}
    (hx : x.run.run d = (.ok b, d)) (h : Follows (f b) y d) : Follows (x >>= f) y d := by
  change (ExceptT.bindCont f (x.run.run d).1).run (x.run.run d).2 = _
  rw [hx]
  exact h

theorem compute {x : Work Error β} {b : β} {f : β → SessionWork σ α} {y : SessionAction σ α} (hx : x = .ok b)
    (h : Follows (f b) y d) : Follows (Stepwise.compute x >>= f) y d :=
  ahead (congrArg (·, d) hx) h

theorem window {n : Nat} {f : {b : Bytes // b.length = n} → SessionWork σ α} {y : SessionAction σ α}
    (hn : n ≤ d.session.buffer.size)
    (h : Follows (f ⟨d.session.buffer.bytes.take n, List.length_take_of_le hn⟩) y d) :
    Follows (Stepwise.window n >>= f) y d := by
  refine ahead ?_ h
  change (reported nofun (d.session.buffer.paged.leading n), d) = _
  rw [PagedBuffer.leading_paged hn]
  rfl

theorem attempt {x : SessionWork σ α} {y : SessionAction σ α} (h : Follows x y d) :
    Follows (Stepwise.attempt x) (EventLog.attempt y) d := by
  change (outcome (x.run.run d).1, (x.run.run d).2) = (.ok (y.run.run d).1, (y.run.run d).2)
  rw [show x.run.run d = _ from h]
  cases (y.run.run d).1 <;> rfl

end Follows

/-! ## Steps -/

theorem Stepwise.command_eq {s : Session} {action : ContextAction} {offset len : Nat} {buffer : DataBuffer}
    (ho : offset < 2 ^ 64) :
    command s action offset len buffer = (s.command action offset len buffer).mapError .refused := by
  rw [command, bind_ok _ (word_eq ho)]
  exact GetLogPage.Stepwise.command_eq _ _

/-- **A transfer of whole dwords.** -/
theorem getLog_follows (t : Transport σ) (action : ContextAction) {offset len : Nat} (ho : offset < 2 ^ 64)
    (hne : len ≠ 0)
    (hmod : len % 4 = 0) (hle : len ≤ 2 ^ 34) (d : Dialogue σ) :
    Follows (Stepwise.getLog t action offset len) (getLog t action offset len) d := by
  obtain ⟨command, hcommand⟩ := d.session.exists_command_lend action offset hne hmod hle
  obtain ⟨-, htransfer, hsize, -⟩ := GetLogPage.command_asked hcommand
  obtain ⟨pages, hissue, hlent⟩ := PagedBuffer.issue_eq (p := (d.session.lend len).paged)
    (by rw [DataBuffer.view_paged]; exact htransfer) hsize t d.world
  have hbuilt : reported Error.build (Stepwise.command d.session action offset len (d.session.lend len))
      = .ok command := by
    rw [command_eq ho, hcommand]
    rfl
  have hissued : reported nofun ((d.session.lend len).paged.issue t command d.world)
      = (.ok ((issue t command d.world).1, pages, (issue t command d.world).2.2) : Work Error _) := by
    rw [hissue]
    rfl
  unfold Session.lend at hcommand hbuilt hissued
  unfold Stepwise.getLog getLog
  refine .get (.bind (.plainly _) (.update fun _ _ => ?_))
  simp only [hcommand]
  refine .compute hbuilt (.get (.compute hissued ?_))
  rcases hi : issue t command d.world with ⟨result, command', w⟩
  rw [hi] at hlent
  simp only [hlent, Option.getD_some]
  refine .bind (.plainly _) (.modify fun _ _ => ?_)
  cases result with
  | ok status => exact .plainly _
  | error e => exact .plainly _

/-- A transfer of as many bytes as a header has. -/
theorem getLog_header_follows (t : Transport σ) (action : ContextAction) (d : Dialogue σ) :
    Follows (Stepwise.getLog t action 0 headerLength) (getLog t action 0 headerLength) d :=
  getLog_follows t action (by decide) (by decide) (by decide) (by decide) d

/-- **A read that is judged**, and then what follows a successful one. -/
theorem Follows.judged {t : Transport σ} {offset len : Nat} {d : Dialogue σ} {x : SessionWork σ α}
    {y : SessionAction σ α}
    {mid : Except Error StatusWord → Dialogue σ → Prop} (hget : Follows (Stepwise.getLog t .read offset len)
      (EventLog.getLog t .read offset len) d) (hmid : Ensures (EventLog.getLog t .read offset len) d mid)
    (hrest : ∀ status d', mid (.ok status) d' → ∀ w, Follows x y ⟨d'.session, w⟩) :
    Follows (do
      let status ← Stepwise.getLog t .read offset len
      Stepwise.plainly (checkRead status offset)
      x) (do
      let status ← EventLog.getLog t .read offset len
      checkRead status offset
      y) d := by
  refine hget.bind (hmid.mono fun r d₁ h₁ status hr => ?_)
  subst hr
  refine .bind (.plainly _) ((checkRead_ensures status offset d₁).mono fun r d₂ h₂ _ hr => ?_)
  subst hr
  obtain ⟨s, w⟩ := d₂
  obtain ⟨-, -, rfl⟩ := h₂
  exact hrest status d₁ h₁ w

theorem Header.stepwise_reported {data : Bytes} {header : Header} (h : Header.decode data = .ok header) :
    reported Error.header (Header.Stepwise.decode data) = .ok header := by
  rw [Header.stepwise_eq, h]
  rfl

theorem Stepwise.alignedLength_eq (h : Header) : Stepwise.alignedLength h = .ok h.alignedLength := by
  have hreported := h.totalLogLength.toNat_lt
  have hunits : h.totalLogLength.toNat / lengthUnit + (if h.totalLogLength.toNat % lengthUnit = 0 then 0 else 1)
      = (h.totalLogLength.toNat + (lengthUnit - 1)) / lengthUnit := by
    rw [lengthUnit]
    split <;> omega
  have hword : (h.totalLogLength.toNat + (lengthUnit - 1)) / lengthUnit < 2 ^ 64 := by
    rw [lengthUnit]
    omega
  rw [← hunits] at hword
  rw [Stepwise.alignedLength, bind_ok _ (word_eq hword), Header.alignedLength, ← hunits]
  rfl

/-- **Reading the header.** -/
theorem readHeader_follows (t : Transport σ) {s₀ : Session} {d : Dialogue σ} (h : s₀.Stands d.session) :
    Follows (Stepwise.readHeader t) (readHeader t) d := by
  unfold Stepwise.readHeader readHeader
  refine (getLog_header_follows t .read d).judged (getLog_header_upheld t .read h) fun status d₁ h₁ w => ?_
  refine .bind (.plainly _) (.setState fun w' _ _ _ => .get (.window h₁.2 ?_))
  obtain ⟨header, hdecode⟩ := Header.exists_decode (List.length_take_of_le h₁.2)
  simp only [Session.believing, hdecode]
  exact .compute (Header.stepwise_reported hdecode) (.compute (alignedLength_eq header) (.plainly _))

/-- **Reading the whole log.** -/
theorem readWhole_follows (t : Transport σ) {s₀ : Session} {p : Progress} {d : Dialogue σ} (h : s₀.Stands d.session)
    (hp : p.Sound s₀.maxLogLength) : Follows (Stepwise.readWhole t p) (readWhole t p) d := by
  unfold Stepwise.readWhole readWhole
  by_cases hle : p.total ≤ p.offset
  · rw [if_pos hle, if_pos hle]
    exact .pure p
  · rw [if_neg hle, if_neg hle]
    by_cases hlong : maxShortTransfer < p.total
    · rw [if_pos hlong, if_pos hlong]
      exact .throw _
    · rw [if_neg hlong, if_neg hlong]
      have hne : p.total ≠ 0 := by omega
      have hshort : p.total ≤ 2 ^ 34 := Nat.le_trans (Nat.le_of_not_lt hlong) (by decide)
      have hmod := alignedLength_mod hp.total
      refine .compute (word_eq (Nat.lt_of_le_of_lt hshort (by decide))) ?_
      refine .judged (getLog_follows t .read (by decide) hne hmod hshort d) (getLog_upheld t .read hne hmod hshort h) ?_
      exact fun status d₁ h₁ w => .look (.window h₁.2 (.pure _))

/-- **Reading the chunks.** -/
theorem readChunks_follows (t : Transport σ) {s₀ : Session} {chunkSize : Nat} (pos : 0 < chunkSize)
    (hdvd : chunkSize % 4 = 0) (hlimit : min chunkSize s₀.maxLogLength ≤ 2 ^ 34) {p : Progress} {d : Dialogue σ}
    (h : s₀.Stands d.session) (hp : p.Sound s₀.maxLogLength) :
    Follows (Stepwise.readChunks t chunkSize pos p) (readChunks t chunkSize pos p) d := by
  induction hn : p.total - p.offset using Nat.strongRecOn generalizing p d with
  | ind n ih =>
    rw [Stepwise.readChunks, readChunks]
    by_cases hlt : p.offset < p.total
    · rw [dif_pos hlt, dif_pos hlt]
      obtain ⟨hne, hmod, hle, hrest⟩ := hp.chunkLength_fits hlt pos hdvd hlimit
      have htotal : p.total < 2 ^ 64 := (alignedLength_bounds hp.total).2.2
      -- what remains and the chunk size are whole dwords, so nothing is rounded
      have hlen : wholeDwords (min (p.total - p.offset) chunkSize) = min (p.total - p.offset) chunkSize :=
        (hp.chunkLength_eq hdvd).trans (Nat.min_comm ..)
      rw [Progress.chunkLength, hlen] at hne hmod hle hrest
      have hremaining : p.total - p.offset < 2 ^ 64 := Nat.lt_of_le_of_lt (Nat.sub_le ..) htotal
      refine .compute (subtract_eq hp.within) (.compute (word_eq hremaining) (.compute (roundUp_eq hmod) ?_))
      simp only [hlen]
      refine .judged (getLog_follows t .read (Nat.lt_trans hlt htotal) hne hmod hle d)
        (getLog_upheld t .read hne hmod hle h) fun status d₁ h₁ w => ?_
      have hholds := Nat.le_trans (Nat.min_le_left _ (p.total - p.offset)) h₁.2
      have hlength := List.length_take_of_le hholds
      have hnext := hp.next hmod hrest h₁.2
      refine .look (.window hholds (.compute (word_eq ?_) ?_))
      · rw [hlength]
        omega
      · dsimp only
        rw [hlength]
        refine .bind (.plainly _) (.keepProgress fun _ _ => .bind (.plainly _) (.note fun w' _ _ _ => ?_))
        refine ih _ ?_ (h₁.1.stands.keepProgress hnext) hnext rfl
        dsimp only
        omega
    · rw [dif_neg hlt, dif_neg hlt]
      exact .pure p

/-! ## Operations -/

theorem establish_follows (t : Transport σ) (d : Dialogue σ) : Follows (Stepwise.establish t) (establish t) d :=
  .bind (.plainly _) (.dropProgress fun _ _ => .rest (getLog_header_follows t .establish _))

theorem release_follows (t : Transport σ) (d : Dialogue σ) : Follows (Stepwise.release t) (release t) d :=
  .rest (.attempt (getLog_header_follows t .release d))

theorem checkContext_follows (t : Transport σ) (d : Dialogue σ) :
    Follows (Stepwise.checkContext t) (checkContext t) d :=
  .rest (getLog_header_follows t .read d)

/-- A read goes on that was kept, or that begins with its header. -/
theorem resumed_follows {t : Transport σ} {s₀ : Session} {d : Dialogue σ} {f : Progress → SessionWork σ α}
    {g : Progress → SessionAction σ α} (h : s₀.Stands d.session)
    (hrest : ∀ p (d' : Dialogue σ), s₀.Stands d'.session → p.Sound s₀.maxLogLength → Follows (f p) (g p) d') :
    Follows (do
      let p ← match (← get).session.progress with
        | some p => pure p
        | none => Stepwise.readHeader t
      f p) (do
      let p ← match (← get).session.progress with
        | some p => pure p
        | none => readHeader t
      g p) d := by
  refine .get ?_
  cases hkept : d.session.progress with
  | some p => exact hrest p d h (h.kept p hkept)
  | none =>
    refine (readHeader_follows t h).bind ((readHeader_upheld t h).mono fun r d₁ h₁ p hp => ?_)
    exact hrest p d₁ h₁.1.stands (h₁.2 p hp)

section

variable {s₀ : Session} (hlimit : min s₀.config.chunkSize s₀.maxLogLength ≤ 2 ^ 34)
include hlimit

/-- **Reading the log.** -/
theorem readLogUnchecked_follows (t : Transport σ) {d : Dialogue σ} (h : s₀.Stands d.session) :
    Follows (Stepwise.readLogUnchecked t) (readLogUnchecked t) d := by
  unfold Stepwise.readLogUnchecked readLogUnchecked
  refine resumed_follows h fun p d₁ h₁ hp => .get ?_
  rw [← h₁.setup.config] at hlimit
  cases hx : d₁.session.extended with
  | true =>
    simp only [hx, if_true]
    refine (readChunks_follows t _ d₁.session.chunkSize_dvd hlimit h₁ hp).bind fun q _ => ?_
    exact .compute (word_eq q.header.totalLogLength.toNat_lt) (.plainly _)
  | false =>
    simp only [hx, Bool.false_eq_true, if_false]
    refine (readWhole_follows t h₁ hp).bind fun q _ => ?_
    exact .compute (word_eq q.header.totalLogLength.toNat_lt) (.plainly _)

theorem readLog_follows (t : Transport σ) {d : Dialogue σ} (h : s₀.Stands d.session) :
    Follows (Stepwise.readLog t) (readLog t) d := by
  unfold Stepwise.readLog readLog
  refine .get ?_
  cases hs : d.session.state with
  | established => exact readLogUnchecked_follows hlimit t h
  | notEstablished => exact .throw _
  | unknown => exact .throw _

theorem retrieve_follows (t : Transport σ) {d : Dialogue σ} (h : s₀.Stands d.session) :
    Follows (Stepwise.retrieve t) (retrieve t) d := by
  refine (establish_follows t d).bind ((establish_upheld t h).mono fun r d₁ h₁ _ _ => ?_)
  refine (Follows.attempt (readLog_follows hlimit t h₁.stands)).bind
    (.attempt ((readLog_upheld hlimit t h₁.stands).mono fun r' d₂ h₂ log _ => ?_))
  exact (Follows.attempt (release_follows t d₂)).rest

/-- **Every operation**, done step by step, halts only with a report of its own. -/
theorem perform_follows (t : Transport σ) (op : Operation) {d : Dialogue σ} (h : s₀.Stands d.session) :
    Follows (Stepwise.perform t op) (op.perform t) d := by
  cases op with
  | establish => exact (establish_follows t d).bind fun _ _ => .pure none
  | readLog => exact (readLog_follows hlimit t h).bind fun log _ => .pure (some log)
  | readLogUnchecked => exact (readLogUnchecked_follows hlimit t h).bind fun log _ => .pure (some log)
  | checkContext => exact (checkContext_follows t d).bind fun _ _ => .pure none
  | release => exact (release_follows t d).bind fun _ _ => .pure none
  | retrieve => exact (retrieve_follows hlimit t h).bind fun log _ => .pure (some log)

end

/-! ## Runs -/

/-- **The arithmetic and the slices of a session are safe**, if the chunk size or the longest log has at most 2^34
bytes. In every dialogue that operations lead to, an operation that is done step by step ends as it has to, or with its
own report: no difference, sum, rounding or length leaves the machine words, no range lies outside of the buffer or the
header, and the bitmap fills what it is copied into. No operation reports that a command cannot be built, or that a
header is too short. The buffer has room for a header and for a chunk, and holds every transfer. -/
theorem session_arithmetic_safe (t : Transport σ) (between : Dialogue σ → World σ → Prop) (d : Dialogue σ)
    (h : Reaches t between d) (hlimit : min d.session.config.chunkSize d.session.maxLogLength ≤ 2 ^ 34) :
    (∀ op, let ended := (op.perform t).run.run d
        (Stepwise.perform t op).run.run d = (ended.1.mapError .refused, ended.2)
          ∧ (∀ cause, ended.1 ≠ .error (.build cause)) ∧ ∀ cause, ended.1 ≠ .error (.header cause))
      ∧ max headerLength d.session.config.chunkSize ≤ d.session.buffer.size
      ∧ ∀ action offset len (d' : Dialogue σ), Ensures (getLog t action offset len) d' fun _ d'' =>
          len ≤ d''.session.buffer.size := by
  have hstands := h.stands hlimit
  refine ⟨fun op => ?_, Nat.max_le.2 ⟨hstands.header_le, hstands.chunk_le⟩, fun action offset len d' => ?_⟩
  · have hexternal := (perform_upheld hlimit t op hstands).external
    refine ⟨perform_follows hlimit t op hstands, fun cause he => ?_, fun cause he => ?_⟩
    · cases hexternal _ he
    · cases hexternal _ he
  · exact (getLog_holds t action offset len d').mono fun _ _ hd => hd.1.holds

/-- The buffer has room for a header, and is replaced by one for the whole log, which is cut to what its header
reports. -/
theorem session_arithmetic_safe_replaced :
    let d : Dialogue Scripted := ⟨Scripted.plainSession, ⟨{ context := some (Scripted.image 7) }, []⟩⟩
    d.session.buffer.size = 512
      ∧ ∃ log d', (Stepwise.perform Scripted.controller.transport .readLogUnchecked).run.run d = (.ok (some log), d')
        ∧ log.bytes.length = 1000 ∧ d'.session.buffer.size = 1024 := by
  intro d
  obtain ⟨hlog, hsize⟩ :
      ((Operation.readLogUnchecked.perform Scripted.controller.transport).run.run d).1.toOption.join.any
        (fun log => log.bytes.length == 1000) = true
      ∧ ((Operation.readLogUnchecked.perform Scripted.controller.transport).run.run d).2.session.buffer.size
        = 1024 := by
    decide +kernel
  obtain ⟨log, d', hrun, hlength⟩ := Scripted.exists_log hlog
  obtain ⟨hsafe, -, -⟩ := session_arithmetic_safe Scripted.controller.transport (fun _ _ => False) d
    (.new Scripted.plainSession_new _) (by decide)
  have hsteps := (hsafe .readLogUnchecked).1
  rw [hrun] at hsize hsteps
  exact ⟨Bytes.length_zeros 512, log, d', hsteps, beq_iff_eq.1 hlength, hsize⟩

end StorageCommands.EventLog
