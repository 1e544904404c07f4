import StorageCommands.Nvme.Admin

/-!
# A controller in software

A controller that answers Identify, reads its health page, and serves a persistent event log through a reporting
context, so that the library can be tried without hardware. Faults make it misbehave at chosen commands.
-/

namespace StorageCommands.Emulated

open Nvme

/-! ## Faults -/

/-- What a controller does instead of its work. -/
inductive Misbehavior
  /-- Complete the command at once. -/
  | complete (completion : Completion)
  /-- Complete the command at once, and then again. -/
  | completeTwice (completion : Completion)
  /-- Report success without a completion. -/
  | keepSilent
  /-- Do not deliver the command. -/
  | fail (error : TransportError)
  deriving DecidableEq, Repr

/-- A misbehavior, and the commands at which it happens. -/
structure Fault where
  misbehavior : Misbehavior
  /-- What is written to the data before. -/
  write : List (Nat × Bytes) := []
  /-- Only at commands with this opcode. -/
  code : Option Nat := none
  /-- Only at commands with this parameter in bits 14:8 of dword 10. -/
  parameter : Option Nat := none
  /-- Only at commands with this offset in dwords 12 and 13. -/
  offset : Option Nat := none
  /-- How many such commands pass before. -/
  skip : Nat := 0
  /-- How often it happens. -/
  count : Nat := 1
  deriving DecidableEq, Repr

/-- The transfer window with patches put over it. -/
def patchData (d : CommandDescriptor) (patches : List (Nat × Bytes)) : List Effect :=
  (d.data.map fun b => Effect.writeData (b.patch patches)).toList

/-- What a misbehaving controller does to a command. -/
def Fault.answer (f : Fault) (d : CommandDescriptor) : Answer :=
  let written := patchData d f.write
  match f.misbehavior with
  | .complete c => ⟨written ++ [.complete c], .ok ()⟩
  | .completeTwice c => ⟨written ++ [.complete c, .complete c], .error .alreadyExecuted⟩
  | .keepSilent => ⟨written, .ok ()⟩
  | .fail e => ⟨written, .error e⟩

/-- A device that does nothing but misbehave. -/
def Fault.transport (f : Fault) : Transport Unit := ⟨fun d w => (f.answer d, w)⟩

/-- The parameter in bits 14:8 of dword 10. -/
def parameterOf (d : CommandDescriptor) : Nat := d.words.cdw10.toNat / 0x100 % 0x80

/-- The offset in dwords 12 and 13. -/
def offsetOf (d : CommandDescriptor) : Nat := d.words.cdw12.toNat + d.words.cdw13.toNat * 0x100000000

/-- Whether a fault is for a command. -/
def Fault.concerns (f : Fault) (d : CommandDescriptor) : Bool :=
  0 < f.count && f.code.all (· = d.opcode.code.toNat) && f.parameter.all (· = parameterOf d)
    && f.offset.all (· = offsetOf d)

/-- The first fault that is for a command, unless it lets the command pass, and the faults that are left. -/
def takeFault (d : CommandDescriptor) : List Fault → Option Fault × List Fault
  | [] => (none, [])
  | f :: fs =>
    if f.concerns d then
      if 0 < f.skip then (none, { f with skip := f.skip - 1 } :: fs)
      else (some f, { f with count := f.count - 1 } :: fs)
    else
      let (taken, rest) := takeFault d fs
      (taken, f :: rest)

/-! ## The controller -/

/-- The state of a controller. -/
structure Controller where
  identify : Bytes := []
  namespaceData : Bytes := []
  health : Bytes := []
  log : Bytes := []
  /-- Whether there is a reporting context. -/
  context : Bool := false
  faults : List Fault := []
  /-- The commands that it was given, the latest first. -/
  issued : List CommandDescriptor := []
  deriving Repr

namespace Controller

/-- Fills the transfer window with the bytes of a source from an offset on, and with zeros after its end. -/
def serve (d : CommandDescriptor) (source : Bytes) (offset : Nat) : List Effect :=
  [.writeData (Bytes.fill (Bytes.zeros d.dataLength) (source.drop offset))]

/-- What the controller transfers, its status, and whether there is a reporting context afterwards. -/
def respond (c : Controller) (d : CommandDescriptor) : List Effect × StatusWord × Bool :=
  let low := d.words.cdw10.toNat % 0x100
  if d.opcode = .admin .identify then
    (serve d (if low = 0 then c.namespaceData else c.identify) 0, ⟨0⟩, c.context)
  else if d.opcode = .admin .getLogPage then
    if low = LogPage.health.toNat then (serve d c.health (offsetOf d), ⟨0⟩, c.context)
    else if low = LogPage.persistentEvent.toNat then
      match parameterOf d, c.context with
      | 0, true => (serve d c.log (offsetOf d), ⟨0⟩, true)
      | 1, false => (serve d c.log 0, ⟨0⟩, true)
      | 2, _ => ([], ⟨0⟩, false)
      | 0, false | 1, true => ([], ⟨0x000c⟩, c.context)
      | _, _ => ([], ⟨0x0002⟩, c.context)
    else ([], ⟨0x0109⟩, c.context)
  else ([], ⟨0x0001⟩, c.context)

/-- Executes a command, or misbehaves at it. -/
def execute (d : CommandDescriptor) (w : World Controller) : Answer × World Controller :=
  let c := w.device
  let (taken, faults) := takeFault d c.faults
  let c := { c with issued := d :: c.issued, faults }
  match taken with
  | some f => (f.answer d, { w with device := c })
  | none =>
    let (effects, status, context) := c.respond d
    (⟨effects ++ [.complete ⟨status, 0⟩], .ok ()⟩, { w with device := { c with context } })

/-- The transport to a controller. -/
def transport : Transport Controller := ⟨execute⟩

end Controller

end StorageCommands.Emulated
