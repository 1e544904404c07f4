import StorageCommands.Proofs.Nvme.GetLogPage
import StorageCommands.Proofs.Nvme.TransferWindow

/-!
# Issuing a Get Log Page command step by step

A Get Log Page command is built and issued as a driver does it: the count is subtracted as a machine word is, the dwords
are encoded in place, byte by byte, and what the transport does to the data is done to the pages of the buffer. Each
step halts if it does not get what it needs.

- `GetLogPage.Stepwise.command_eq`: building a command halts only with a report.
- `PagedBuffer.issue_eq`: issuing a command that transfers through a buffer does not halt, and leaves in the pages what
  it leaves in the buffer.
-/

namespace StorageCommands.Nvme

open EventLog Layout

/-! ## Building the command -/

/-- Stores values in the fields of a command dword in place. -/
def CommandBuilder.Stepwise.encodeWord {ι : Type} [DecidableEq ι] [Named ι] (b : CommandBuilder) (w : Word)
    (t : Table ι)
    (values : Values ι) : Stepwise.Work BuildError CommandBuilder :=
  match (InPlace.encode t values).run.run (dwordBytes (b.words.get w)) with
  | (.ok (), bytes) => .ok (b.withWord w (dwordAt bytes 0))
  | (.error (.refused cause), _) => .error (.refused (.encode w cause))
  | (.error h, _) => .error (.undecoded h)

/-- In place or not, the values of fields that can be built come to the same dword, or to the same report. -/
theorem CommandBuilder.Stepwise.encodeWord_eq {ι : Type} [DecidableEq ι] [Named ι] {t : Table ι}
    (ht : ∀ f ∈ t.fields, f.2.WellFormed ∧ InPlace.MachineSized f.2) (b : CommandBuilder) (w : Word)
    (values : Values ι) :
    Stepwise.encodeWord b w t values = (b.encodeWord w t values).mapError .refused := by
  rw [Stepwise.encodeWord, CommandBuilder.encodeWord, InPlace.run_encode ht]
  cases t.encode values (dwordBytes (b.words.get w)) <;> rfl

namespace GetLogPage

/-- Builds the command step by step. -/
def Stepwise.command (g : GetLogPage) (lent : Option DataBuffer) :
    EventLog.Stepwise.Work BuildError CommandDescriptor := do
  (CommandBuilder.checkAlignment g.len).mapError .refused
  -- the count is one less than the number of dwords
  let dwords ← EventLog.Stepwise.subtract (g.len / 4) 1
  let b : CommandBuilder := { opcode := .admin .getLogPage, nsid := g.nsid }
  let b ← CommandBuilder.Stepwise.encodeWord b .cdw10 getLogPageDword10
    ⟨[(.lid, .uint g.page.toNat), (.lsp, .uint g.parameter.toNat), (.rae, .ofBool g.retainEvent),
      (.numdl, .uint (dwords % 0x10000))]⟩
  let b ← CommandBuilder.Stepwise.encodeWord b .cdw11 getLogPageDword11
    ⟨[(.numdu, .uint (dwords / 0x10000)), (.lsi, .uint g.identifier.toNat)]⟩
  let b ← CommandBuilder.Stepwise.encodeWord b .cdw12 getLogPageDword12
    ⟨[(.lpol, .uint (g.offset.toNat % 0x100000000))]⟩
  let b ← CommandBuilder.Stepwise.encodeWord b .cdw13 getLogPageDword13
    ⟨[(.lpou, .uint (g.offset.toNat / 0x100000000))]⟩
  let b ← CommandBuilder.Stepwise.encodeWord b .cdw14 getLogPageDword14 ⟨[(.uuidIndex, .uint g.uuidIndex.toNat)]⟩
  (g.finish lent b).mapError .refused

/-- **Building a command** halts only with a report. -/
theorem Stepwise.command_eq (g : GetLogPage) (lent : Option DataBuffer) :
    Stepwise.command g lent = (g.command lent).mapError .refused := by
  have h10 := @CommandBuilder.Stepwise.encodeWord_eq _ _ _ getLogPageDword10 (by decide)
  have h11 := @CommandBuilder.Stepwise.encodeWord_eq _ _ _ getLogPageDword11 (by decide)
  have h12 := @CommandBuilder.Stepwise.encodeWord_eq _ _ _ getLogPageDword12 (by decide)
  have h13 := @CommandBuilder.Stepwise.encodeWord_eq _ _ _ getLogPageDword13 (by decide)
  have h14 := @CommandBuilder.Stepwise.encodeWord_eq _ _ _ getLogPageDword14 (by decide)
  rw [Stepwise.command, GetLogPage.command, EventLog.Stepwise.mapError_bind]
  cases ha : CommandBuilder.checkAlignment g.len with
  | error e => rfl
  | ok u =>
    -- a length that is aligned is not zero, so the subtraction does not go below zero
    have hcount : 1 ≤ g.len / 4 := by
      simp only [CommandBuilder.checkAlignment] at ha
      split at ha
      · cases ha
      · omega
    have hsubtract : EventLog.Stepwise.subtract (g.len / 4) 1
        = (.ok ⟨g.len / 4 - 1, Nat.sub_add_cancel hcount⟩ :
          EventLog.Stepwise.Work BuildError {d // d + 1 = g.len / 4}) :=
      EventLog.Stepwise.subtract_eq hcount
    simp only [h10, h11, h12, h13, h14, EventLog.Stepwise.mapError_bind, hsubtract]
    rfl

end GetLogPage

/-! ## Issuing it -/

/-- The number of bytes that the pages of a buffer have. -/
def DataBuffer.pagedSize (b : DataBuffer) : Nat :=
  DataBuffer.pageSize * ((b.size + DataBuffer.pageSize - 1) / DataBuffer.pageSize)

theorem DataBuffer.size_le_pagedSize (b : DataBuffer) : b.size ≤ b.pagedSize := by
  rw [pagedSize, pageSize]
  omega

theorem DataBuffer.length_append_zeros (b : DataBuffer) :
    (b.bytes ++ Bytes.zeros (b.pagedSize - b.size)).length = b.pagedSize := by
  rw [List.length_append, Bytes.length_zeros, ← DataBuffer.size]
  exact Nat.add_sub_cancel' b.size_le_pagedSize

/-- The pages that a buffer is kept in, with zeros after its bytes. -/
def DataBuffer.paged (b : DataBuffer) : PagedBuffer where
  storage := b.bytes ++ Bytes.zeros (b.pagedSize - b.size)
  len := b.size
  length_storage := b.length_append_zeros

@[simp] theorem DataBuffer.view_paged (b : DataBuffer) : b.paged.view = b :=
  congrArg DataBuffer.mk List.take_left

namespace PagedBuffer

variable {σ : Type}

/-- Takes the first `n` bytes of the buffer, with the fact that there are as many. -/
def leading (p : PagedBuffer) (n : Nat) : Work {b : Bytes // b.length = n} := do
  let bytes ← p.bytes
  if h : n ≤ bytes.length then return ⟨bytes.take n, List.length_take_of_le h⟩
  throw .outOfBounds

theorem leading_paged {b : DataBuffer} {n : Nat} (h : n ≤ b.size) :
    b.paged.leading n = .ok ⟨b.bytes.take n, List.length_take_of_le h⟩ := by
  rw [leading, bytes_eq, DataBuffer.view_paged, Stepwise.bind_ok _ rfl, dif_pos (show n ≤ b.bytes.length from h)]
  rfl

/-- Executes a command that transfers through the pages, and has not been executed: what the transport does to the
command is done to them. -/
def issue (p : PagedBuffer) (t : Transport σ) (d : CommandDescriptor) (w : World σ) :
    Work (Except TransportError StatusWord × PagedBuffer × World σ) := do
  if d.isCompleted then return (.error .alreadyExecuted, p, w)
  let (answer, w) := t.execute d (w.note d.issuing)
  let p ← p.afterAll d.dataLength answer.effects
  match answer.result, (d.afterAll answer.effects).completion with
  | .error e, _ => return (.error e, p, w)
  | .ok (), none => return (.error .notCompleted, p, w)
  | .ok (), some c => return (.ok c.status, p, w.note c.reached)

/-- **Issuing a command** that transfers through the first bytes of a buffer does not halt. The result and the world are
those of the command, and the pages hold the buffer that it gives back. -/
theorem issue_eq {p : PagedBuffer} {d : CommandDescriptor} {n : Nat} (ht : d.transfer = some ⟨⟨p.view, true⟩, n⟩)
    (hn : n ≤ p.len) (t : Transport σ) (w : World σ) :
    ∃ p', p.issue t d w = .ok ((Nvme.issue t d w).1, p', (Nvme.issue t d w).2.2)
      ∧ (Nvme.issue t d w).2.1.lentBuffer = some p'.view := by
  rw [issue, Nvme.issue]
  by_cases hd : d.isCompleted = true
  · rw [if_pos hd, if_pos hd]
    exact ⟨p, rfl, by rw [CommandDescriptor.lentBuffer, ht]; rfl⟩
  · rw [if_neg hd, if_neg hd]
    rcases t.execute d (w.note d.issuing) with ⟨answer, w₁⟩
    have hlength : d.dataLength = n := by rw [CommandDescriptor.dataLength, ht]; rfl
    have hsize : n ≤ p.view.size := by rw [size_view]; exact hn
    obtain ⟨p', hfollows⟩ := exists_follows hn answer.effects
    have hlent : (d.afterAll answer.effects).lentBuffer = some p'.view := by
      rw [hfollows.view]
      exact (CommandDescriptor.confined_afterAll ht hsize answer.effects).lentBuffer
    refine ⟨p', ?_⟩
    dsimp only
    rw [hlength, Stepwise.bind_ok _ hfollows.run]
    cases answer.result with
    | error e => exact ⟨rfl, hlent⟩
    | ok u =>
      cases (d.afterAll answer.effects).completion with
      | none => exact ⟨rfl, hlent⟩
      | some c => exact ⟨rfl, hlent⟩

end PagedBuffer

end StorageCommands.Nvme
