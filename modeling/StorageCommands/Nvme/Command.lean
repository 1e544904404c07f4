import StorageCommands.Duration
import StorageCommands.Layout.Table
import StorageCommands.Nvme.Opcode
import StorageCommands.Nvme.Queue

/-!
# Commands

A `CommandDescriptor` is one NVMe command with its buffers and, once it has been executed, its completion. It is made
by a `CommandBuilder`. Data moves through the transfer window, the first `len` bytes of the data buffer; the rest of
the buffer is never touched. A completion is recorded once and stays.
-/

namespace StorageCommands.Nvme

open Layout

/-! ## Buffers -/

/-- A buffer for data transfers. -/
structure DataBuffer where
  bytes : Bytes
  deriving DecidableEq, Repr

namespace DataBuffer

/-- Buffers start at multiples of this many bytes. -/
def pageSize : Nat := 4096

/-- A fresh buffer. There is always memory for it, also where a machine would not allocate so many bytes. -/
def zeroed (len : Nat) : DataBuffer := ⟨Bytes.zeros len⟩

/-- The number of bytes in a buffer. -/
def size (b : DataBuffer) : Nat := b.bytes.length

/-- The address of the first byte of a buffer whose storage begins at `base`; zero for an empty buffer. -/
def address (b : DataBuffer) (base : UInt64) : UInt64 := if b.size = 0 then 0 else base

def display (b : DataBuffer) : String := Display.record "DataBuffer" [("len", toString b.size)]

end DataBuffer

/-- A data buffer, and whether somebody else lent it for the command's lifetime. -/
structure Region where
  buffer : DataBuffer
  isLent : Bool
  deriving DecidableEq, Repr

/-- A data transfer through the first `len` bytes of a buffer. -/
structure Transfer where
  region : Region
  len : Nat
  deriving DecidableEq, Repr

namespace Transfer

/-- The bytes that are transferred. -/
def window (t : Transfer) : Bytes := t.region.buffer.bytes.take t.len

/-- Copies bytes to the start of the window; what does not fit is dropped. -/
def write (t : Transfer) (new : Bytes) : Transfer :=
  let bytes := t.region.buffer.bytes
  { t with region.buffer.bytes := Bytes.fill t.window new ++ bytes.drop t.len }

end Transfer

/-! ## Descriptors -/

/-- What a transport records when a command has been executed. -/
structure Completion where
  status : StatusWord
  /-- The command specific result. -/
  result : UInt32
  deriving DecidableEq, Repr

def Completion.display (c : Completion) : String :=
  Display.record "Completion" [("status", c.status.display), ("result", toString c.result)]

/-- Where the data and metadata buffers of a command begin in memory. -/
structure Placement where
  data : UInt64
  metadata : UInt64
  deriving DecidableEq, Repr

/-- One NVMe command with its buffers and its completion. -/
structure CommandDescriptor where
  opcode : Opcode
  nsid : UInt32
  cdw2 : UInt32
  cdw3 : UInt32
  words : Words
  transfer : Option Transfer
  metadata : Option DataBuffer
  timeout : Option Duration
  completion : Option Completion
  deriving DecidableEq, Repr

namespace CommandDescriptor

/-- The number of bytes transferred through the data buffer. -/
def dataLength (d : CommandDescriptor) : Nat := d.transfer.elim 0 Transfer.len

/-- The transfer window. -/
def data (d : CommandDescriptor) : Option Bytes := d.transfer.map Transfer.window

/-- Copies bytes to the start of the transfer window. -/
def writeData (d : CommandDescriptor) (new : Bytes) : CommandDescriptor :=
  { d with transfer := d.transfer.map (·.write new) }

/-- The number of metadata bytes. -/
def metadataLength (d : CommandDescriptor) : Nat := d.metadata.elim 0 DataBuffer.size

/-- Copies bytes to the start of the metadata buffer. -/
def writeMetadata (d : CommandDescriptor) (new : Bytes) : CommandDescriptor :=
  { d with metadata := d.metadata.map fun b => ⟨Bytes.fill b.bytes new⟩ }

/-- Whether a completion has been recorded. -/
def isCompleted (d : CommandDescriptor) : Bool := d.completion.isSome

/-- Records the completion, unless there is one. -/
def complete? (d : CommandDescriptor) (c : Completion) : Option CommandDescriptor :=
  if d.isCompleted then none else some { d with completion := some c }

/-- The data buffer, if it was lent for the command. -/
def lentBuffer (d : CommandDescriptor) : Option DataBuffer :=
  d.transfer.bind fun t => if t.region.isLent then some t.region.buffer else none

/-- The data buffer, if it belongs to the command. -/
def ownedBuffer (d : CommandDescriptor) : Option DataBuffer :=
  d.transfer.bind fun t => if t.region.isLent then none else some t.region.buffer

/-- The submission queue entry of a command whose buffers lie at known addresses. -/
def submissionEntry (d : CommandDescriptor) (place : Placement) : SubmissionEntry where
  cdw0 := d.opcode.code.toUInt32
  nsid := d.nsid
  cdw2 := d.cdw2
  cdw3 := d.cdw3
  metadataPointer := d.metadata.elim 0 (·.address place.metadata)
  dataPointer := d.transfer.elim 0 (·.region.buffer.address place.data)
  secondDataPointer := 0
  words := d.words

def display (d : CommandDescriptor) : String :=
  Display.record "CommandDescriptor"
    [("opcode", d.opcode.display), ("nsid", toString d.nsid),
     ("cdws", Display.list (d.words.toList.map toString)),
     ("data_len", toString d.dataLength), ("metadata_len", toString d.metadataLength),
     ("timeout", Display.option (d.timeout.map Duration.text)),
     ("completion", Display.option (d.completion.map Completion.display))]

end CommandDescriptor

/-! ## Building a command -/

/-- Why a command cannot be built. -/
inductive BuildError
  /-- The buffer is shorter than the transfer. -/
  | bufferTooShort (required len : Nat)
  /-- The transfer length is no positive multiple of 4. -/
  | unalignedTransfer (len : Nat)
  /-- A value cannot be stored in a command dword. -/
  | encode (word : Word) (cause : Layout.Error)
  deriving DecidableEq, Repr

namespace BuildError

def kind : BuildError → String
  | bufferTooShort .. => "BufferTooShort"
  | unalignedTransfer .. => "UnalignedTransfer"
  | encode .. => "Encode"

def message : BuildError → String
  | bufferTooShort required len =>
    "buffer of " ++ toString len ++ " bytes is shorter than the " ++ toString required ++ " byte transfer"
  | unalignedTransfer len => "transfer length " ++ toString len ++ " is not a non-zero multiple of 4 bytes"
  | encode word _ => "failed to encode " ++ word.label

def chain (e : BuildError) : List Reason :=
  ⟨e.kind, e.message⟩ :: match e with
    | encode _ cause => cause.chain
    | _ => []

end BuildError

/-- A command in the making. -/
structure CommandBuilder where
  opcode : Opcode
  nsid : UInt32 := 0
  cdw2 : UInt32 := 0
  cdw3 : UInt32 := 0
  words : Words := {}
  transferLength : Option Nat := none
  region : Option Region := none
  metadata : Option DataBuffer := none
  timeout : Option Duration := none
  deriving DecidableEq, Repr

namespace CommandBuilder

/-- Replaces a command dword. -/
def withWord (b : CommandBuilder) (w : Word) (v : UInt32) : CommandBuilder := { b with words := b.words.set w v }

/-- Stores values in the fields of a command dword and keeps its other bits. -/
def encodeWord {ι : Type} [DecidableEq ι] [Named ι] (b : CommandBuilder) (w : Word) (table : Table ι)
    (values : Values ι) : Except BuildError CommandBuilder :=
  match table.encode values (dwordBytes (b.words.get w)) with
  | .ok bytes => .ok (b.withWord w (dwordAt bytes 0))
  | .error cause => .error (.encode w cause)

/-- Fails unless a transfer length is a positive multiple of 4. -/
def checkAlignment (len : Nat) : Except BuildError Unit :=
  if len = 0 ∨ len % 4 ≠ 0 then .error (.unalignedTransfer len) else .ok ()

/-- The data transfer: without a buffer, through a fresh one of zeros; without a length, through the whole buffer. -/
def transfer (b : CommandBuilder) : Except BuildError (Option Transfer) :=
  match b.region, b.transferLength with
  | none, none => return none
  | none, some len => do
    checkAlignment len
    return some ⟨⟨DataBuffer.zeroed len, false⟩, len⟩
  | some region, length? => do
    let len := length?.getD region.buffer.size
    checkAlignment len
    if region.buffer.size < len then throw (.bufferTooShort len region.buffer.size)
    return some ⟨region, len⟩

/-- The finished command. -/
def build (b : CommandBuilder) : Except BuildError CommandDescriptor := do
  let transfer ← b.transfer
  return { b with transfer, completion := none }

end CommandBuilder

end StorageCommands.Nvme
