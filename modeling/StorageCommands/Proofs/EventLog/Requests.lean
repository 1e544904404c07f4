import StorageCommands.Proofs.EventLog.Exchanges
import StorageCommands.Proofs.Nvme.GetLogPage

/-!
# The commands of a session

Every command of a session is a Get Log Page command for the persistent event log (`Requests`). A transfer of at most
2^34 bytes puts one on the transport, whose answer is the result (`getLog_sent`); for a longer transfer there is no
command (`getLog_unsent`).
-/

namespace StorageCommands.EventLog

open Nvme

variable {σ : Type}

/-! ## Commands -/

/-- What the dwords of a session's command say. -/
def ContextAction.request (action : ContextAction) (offset len : Nat) : LogPageRequest where
  page := 0x0d
  parameter := action.code.toNat
  retainEvent := 0
  count := len / 4 - 1
  identifier := 0
  offset
  uuidIndex := 0
  offsetType := 0
  commandSet := 0

/-- The command asks for `len` bytes of the persistent event log from an offset on, with an action on the context. -/
structure Requests (d : CommandDescriptor) (action : ContextAction) (offset len : Nat) : Prop where
  opcode : d.opcode = .admin 0x02
  nsid : d.nsid = 0xffffffff
  request : d.logPageRequest = .ok (action.request offset len)
  cdw15 : d.words.cdw15 = 0
  dataLength : d.dataLength = len
  count : ((action.request offset len).count + 1) * 4 = d.dataLength
  aligned : offset % 4 = 0

namespace Session

variable {s : Session} {action : ContextAction} {offset len : Nat} {buffer : DataBuffer}

/-- The commands that a session builds ask for what they are meant to. -/
theorem requests_of_command {d : CommandDescriptor} (h : s.command action offset len buffer = .ok d)
    (ho : offset < 2 ^ 64) (ha : offset % 4 = 0) :
    Requests d action offset len ∧ d.transfer = some ⟨⟨buffer, true⟩, len⟩ ∧ len ≤ buffer.size
      ∧ d.completion = none := by
  obtain ⟨hasked, htransfer, hsize, hne, hmod⟩ := GetLogPage.command_asked h
  obtain ⟨hrequest, hcdw15⟩ := GetLogPage.command_request h
  have hoffset : (UInt64.ofNat offset).toNat = offset := by rw [UInt64.toNat_ofNat', Nat.mod_eq_of_lt ho]
  have hlength : d.dataLength = len := by rw [CommandDescriptor.dataLength, htransfer]; rfl
  have hcount : (len / 4 - 1 + 1) * 4 = len := by
    have : len ≠ 0 := hne
    have : len % 4 = 0 := hmod
    omega
  rw [GetLogPage.request, hoffset] at hrequest
  exact ⟨⟨hasked.opcode, hasked.nsid, hrequest, hcdw15, hlength, hcount.trans hlength.symm, ha⟩, htransfer, hsize,
    hasked.notExecuted⟩

/-- There is a command for every transfer of whole dwords that the count has room for. -/
theorem exists_command (hne : len ≠ 0) (hmod : len % 4 = 0) (hle : len ≤ 2 ^ 34) (hb : len ≤ buffer.size) :
    ∃ d, s.command action offset len buffer = .ok d := by
  have hparameter : action.code ≤ 0x7f := by cases action <;> decide
  have huuid : (0 : UInt8) ≤ 0x7f := by decide
  have hbuffer : ∀ b ∈ some buffer, len ≤ b.size := by
    rintro b ⟨rfl⟩
    exact hb
  exact GetLogPage.command_isOk_iff.2 ⟨hne, hmod, hparameter, hle, huuid, hbuffer⟩

/-- There is none for a longer transfer. -/
theorem command_of_long (hle : 2 ^ 34 < len) : ∃ e, s.command action offset len buffer = .error e := by
  cases hc : s.command action offset len buffer with
  | error e => exact ⟨e, rfl⟩
  | ok d =>
    have := (GetLogPage.command_isOk_iff.1 ⟨d, hc⟩).2.2.2.1
    exact absurd this (Nat.not_le.2 hle)

theorem le_size_lend (s : Session) (len : Nat) : len ≤ (s.lend len).size := by
  unfold lend
  split
  · exact Nat.le_of_eq (Bytes.length_zeros len).symm
  · omega

end Session

/-! ## Transfers -/

/-- What a transfer leaves behind: one exchange more, and in the buffer what was received. -/
structure Sent (action : ContextAction) (offset len : Nat) (d : Dialogue (Recorded σ)) (r : Except Error StatusWord)
    (d' : Dialogue (Recorded σ)) : Prop where
  kept : d'.session = { d.session with buffer := d'.session.buffer, state := d'.session.state }
  exchange : ∃ e, d'.exchanges = d.exchanges ++ [e] ∧ Requests e.command action offset len
    ∧ e.status? = r.toOption ∧ d'.session.buffer.bytes.take len = e.received ∧ e.received.length = len

/-- **A transfer** of at most 2^34 bytes puts one command on the transport. -/
theorem getLog_sent (t : Transport σ) (action : ContextAction) {offset len : Nat} (ho : offset < 2 ^ 64)
    (ha : offset % 4 = 0) (hne : len ≠ 0) (hmod : len % 4 = 0) (hle : len ≤ 2 ^ 34) (d : Dialogue (Recorded σ)) :
    Ensures (getLog t.recording action offset len) d (Sent action offset len d) := by
  have hb := d.session.le_size_lend len
  refine Ensures.getLog (fun e he => ?_) fun command hc result command' w hi w' hw' => ?_
  · obtain ⟨c, hc⟩ : ∃ c, d.session.command action offset len (d.session.lend len) = .ok c :=
      Session.exists_command hne hmod hle hb
    rw [hc] at he
    cases he
  · obtain ⟨hrequests, htransfer, hsize, hnew⟩ := Session.requests_of_command hc ho ha
    obtain ⟨e, rfl, rfl, hrecord, hstatus⟩ := issue_exchange hnew hi
    obtain ⟨t', ht', hkeeps⟩ := CommandDescriptor.afterAll_transfer htransfer e.answer.effects
    have hlent : (e.outcome.lentBuffer.getD (d.session.lend len)).bytes.take len = e.received := by
      rw [Exchange.received, CommandDescriptor.data, CommandDescriptor.lentBuffer, Exchange.outcome, ht',
        Option.bind_some, hkeeps.isLent, Option.map_some, Transfer.window, hkeeps.len]
      rfl
    have hlength : e.received.length = len := by
      rw [Exchange.received, CommandDescriptor.data, Exchange.outcome, ht', Option.map_some, Option.getD_some,
        Transfer.window, List.length_take, ← DataBuffer.size, hkeeps.size, hkeeps.len]
      exact Nat.min_eq_left hsize
    have hexchanges : w'.device.exchanges = d.exchanges ++ [e] := by rw [hw', hrecord]; rfl
    cases result with
    | ok status => exact ⟨rfl, e, hexchanges, hrequests, hstatus, hlent, hlength⟩
    | error _ => exact ⟨rfl, e, hexchanges, hrequests, hstatus, hlent, hlength⟩

/-- A longer transfer puts none on the transport. -/
theorem getLog_unsent (t : Transport σ) (action : ContextAction) {offset len : Nat} (hle : 2 ^ 34 < len)
    (d : Dialogue (Recorded σ)) : Ensures (getLog t.recording action offset len) d fun r d' =>
      (∃ e, r = .error e) ∧ d'.exchanges = d.exchanges
        ∧ d'.session = { d.session with buffer := d'.session.buffer, state := d'.session.state } := by
  obtain ⟨e, he⟩ : ∃ e, d.session.command action offset len (d.session.lend len) = .error e :=
    Session.command_of_long hle
  refine Ensures.getLog (fun e he => ⟨⟨_, rfl⟩, rfl, rfl⟩) fun command hc => ?_
  rw [hc] at he
  cases he

end StorageCommands.EventLog
