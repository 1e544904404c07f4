import StorageCommands.Bytes
import StorageCommands.Nvme.Status

/-!
# Queue entries

The host puts commands into a submission queue as entries of 64 bytes, and the controller answers in a completion
queue with entries of 16 bytes. All integers in them are little endian.
-/

namespace StorageCommands.Nvme

/-! ## Command dwords 10 to 15 -/

/-- One of the six dwords whose meaning depends on the command. -/
inductive Word
  | cdw10
  | cdw11
  | cdw12
  | cdw13
  | cdw14
  | cdw15
  deriving DecidableEq, Repr

def Word.label : Word → String
  | cdw10 => "Cdw10"
  | cdw11 => "Cdw11"
  | cdw12 => "Cdw12"
  | cdw13 => "Cdw13"
  | cdw14 => "Cdw14"
  | cdw15 => "Cdw15"

/-- The dword of a name. -/
def Word.ofLabel? (label : String) : Option Word :=
  [cdw10, cdw11, cdw12, cdw13, cdw14, cdw15].find? fun w => w.label = label

/-- The six dwords whose meaning depends on the command. -/
structure Words where
  cdw10 : UInt32 := 0
  cdw11 : UInt32 := 0
  cdw12 : UInt32 := 0
  cdw13 : UInt32 := 0
  cdw14 : UInt32 := 0
  cdw15 : UInt32 := 0
  deriving DecidableEq, Repr

namespace Words

/-- One of the six dwords. -/
def get (ws : Words) : Word → UInt32
  | .cdw10 => ws.cdw10
  | .cdw11 => ws.cdw11
  | .cdw12 => ws.cdw12
  | .cdw13 => ws.cdw13
  | .cdw14 => ws.cdw14
  | .cdw15 => ws.cdw15

/-- Replaces one of the six dwords. -/
def set (ws : Words) (w : Word) (v : UInt32) : Words :=
  match w with
  | .cdw10 => { ws with cdw10 := v }
  | .cdw11 => { ws with cdw11 := v }
  | .cdw12 => { ws with cdw12 := v }
  | .cdw13 => { ws with cdw13 := v }
  | .cdw14 => { ws with cdw14 := v }
  | .cdw15 => { ws with cdw15 := v }

/-- The six dwords in order. -/
def toList (ws : Words) : List UInt32 := [ws.cdw10, ws.cdw11, ws.cdw12, ws.cdw13, ws.cdw14, ws.cdw15]

theorem get_set_self (ws : Words) (w : Word) (v : UInt32) : (ws.set w v).get w = v := by
  cases w <;> rfl

theorem get_set_of_ne (ws : Words) {w w' : Word} (v : UInt32) (h : w' ≠ w) : (ws.set w v).get w' = ws.get w' := by
  cases w <;> cases w' <;> simp_all [get, set]

end Words

/-! ## Submission -/

def commandDword0 : RegisterLayout :=
  ⟨"Cdw0", 4,
    [.number "opcode" 0 8, .number "fuse" 8 2, .number "reserved" 10 4, .number "psdt" 14 2, .number "cid" 16 16]⟩

/-- A submission queue entry. -/
structure SubmissionEntry where
  cdw0 : UInt32
  nsid : UInt32
  cdw2 : UInt32
  cdw3 : UInt32
  metadataPointer : UInt64
  dataPointer : UInt64
  secondDataPointer : UInt64
  words : Words
  deriving DecidableEq, Repr

/-- The little-endian 16-bit integer at an offset. -/
def wordAt (b : Bytes) (offset : Nat) : UInt16 := UInt16.ofNat (b.slice offset 2).littleEndian

/-- The little-endian 32-bit integer at an offset. -/
def dwordAt (b : Bytes) (offset : Nat) : UInt32 := UInt32.ofNat (b.slice offset 4).littleEndian

/-- The little-endian 64-bit integer at an offset. -/
def qwordAt (b : Bytes) (offset : Nat) : UInt64 := UInt64.ofNat (b.slice offset 8).littleEndian

/-- The bytes of a 16-bit integer. -/
def wordBytes (v : UInt16) : Bytes := Bytes.ofLittleEndian 2 v.toNat

/-- The bytes of a 32-bit integer. -/
def dwordBytes (v : UInt32) : Bytes := Bytes.ofLittleEndian 4 v.toNat

/-- The bytes of a 64-bit integer. -/
def qwordBytes (v : UInt64) : Bytes := Bytes.ofLittleEndian 8 v.toNat

namespace SubmissionEntry

/-- The 64 bytes of an entry. -/
def toBytes (e : SubmissionEntry) : Bytes :=
  dwordBytes e.cdw0 ++ dwordBytes e.nsid ++ dwordBytes e.cdw2 ++ dwordBytes e.cdw3 ++ qwordBytes e.metadataPointer
    ++ qwordBytes e.dataPointer ++ qwordBytes e.secondDataPointer ++ e.words.toList.flatMap dwordBytes

/-- The entry that 64 bytes hold. -/
def ofBytes (b : Bytes) : SubmissionEntry where
  cdw0 := dwordAt b 0
  nsid := dwordAt b 4
  cdw2 := dwordAt b 8
  cdw3 := dwordAt b 12
  metadataPointer := qwordAt b 16
  dataPointer := qwordAt b 24
  secondDataPointer := qwordAt b 32
  words := ⟨dwordAt b 40, dwordAt b 44, dwordAt b 48, dwordAt b 52, dwordAt b 56, dwordAt b 60⟩

end SubmissionEntry

/-! ## Completion -/

/-- The layout of the last word of a completion entry: the phase tag, then the status field. -/
def completionStatus : RegisterLayout :=
  ⟨"CompletionStatus", 2,
    [.bit "phase" 0, .number "status" 1 11, .number "crd" 12 2, .bit "more" 14, .bit "dnr" 15]⟩

/-- A completion queue entry. -/
structure CompletionEntry where
  dw0 : UInt32
  dw1 : UInt32
  queueHead : UInt16
  queueId : UInt16
  commandId : UInt16
  /-- The status field with the phase tag below it. -/
  taggedStatus : UInt16
  deriving DecidableEq, Repr

namespace CompletionEntry

/-- The 16 bytes of an entry. -/
def toBytes (e : CompletionEntry) : Bytes :=
  dwordBytes e.dw0 ++ dwordBytes e.dw1 ++ wordBytes e.queueHead ++ wordBytes e.queueId ++ wordBytes e.commandId
    ++ wordBytes e.taggedStatus

/-- The entry that 16 bytes hold. -/
def ofBytes (b : Bytes) : CompletionEntry where
  dw0 := dwordAt b 0
  dw1 := dwordAt b 4
  queueHead := wordAt b 8
  queueId := wordAt b 10
  commandId := wordAt b 12
  taggedStatus := wordAt b 14

/-- The status field without the phase tag. -/
def status (e : CompletionEntry) : StatusWord := ⟨e.taggedStatus >>> 1⟩

end CompletionEntry

end StorageCommands.Nvme
