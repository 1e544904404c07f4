import StorageCommands.Linux.Errno
import StorageCommands.Nvme.Command
import StorageCommands.Trace.Event

/-!
# Transports

A transport delivers commands to one device. It can do three things to a command: write to its transfer window, write
to its metadata, and record its completion (`Effect`). It answers with what it did, in order, and with whether the
command was delivered; an error means that the outcome of the command is unknown.

`issue` executes a command that has no completion yet and reads the status off the completion that the transport
recorded. Operations run in a `World`: the state of the device, and the log of what was done with it.
-/

namespace StorageCommands.Nvme

open Trace

/-- Why a command was not delivered, or a device not opened. -/
inductive TransportError
  | notFound (path : String)
  | permissionDenied (path : String)
  /-- The device is there and cannot be opened. -/
  | notOpened (path : String) (cause : Linux.SystemError)
  /-- Another device is there now and cannot be opened. -/
  | notReopened (path : String) (cause : Linux.SystemError)
  /-- The request to the device failed. -/
  | requestFailed (cause : Linux.SystemError)
  /-- The command has a completion already. -/
  | alreadyExecuted
  /-- The transport reported success and recorded no completion. -/
  | notCompleted
  deriving DecidableEq, Repr

namespace TransportError

def kind : TransportError → String
  | notFound _ => "NotFound"
  | permissionDenied _ => "PermissionDenied"
  | notOpened .. => "Open"
  | notReopened .. => "Replug"
  | requestFailed _ => "Io"
  | alreadyExecuted => "AlreadyExecuted"
  | notCompleted => "NotCompleted"

def message : TransportError → String
  | notFound path => "device " ++ path ++ " not found"
  | permissionDenied path => "permission denied opening " ++ path
  | notOpened path _ => "failed to open " ++ path
  | notReopened path _ => "device " ++ path ++ " changed and could not be reopened"
  | requestFailed _ => "device control request failed"
  | alreadyExecuted => "command was already executed"
  | notCompleted => "transport did not record a completion"

def chain (e : TransportError) : List Reason :=
  ⟨e.kind, e.message⟩ :: match e with
    | notOpened _ cause | notReopened _ cause | requestFailed cause => cause.chain
    | _ => []

end TransportError

/-! ## The world of an operation -/

/-- The state of a device, and the log of what was done with it, the latest event first. -/
structure World (σ : Type) where
  device : σ
  log : List Event := []

/-- Adds an event to the log. -/
def World.note {σ : Type} (w : World σ) (e : Event) : World σ := { w with log := e :: w.log }

/-- Work in a world, which stays as the work has left it when the work fails. -/
abbrev Action (σ ε α : Type) := ExceptT ε (StateM (World σ)) α

/-! ## Delivery -/

/-- What a transport does to a command. -/
inductive Effect
  | writeData (bytes : Bytes)
  | writeMetadata (bytes : Bytes)
  | complete (completion : Completion)
  deriving DecidableEq, Repr

/-- The command after an effect; a second completion changes nothing. -/
def CommandDescriptor.after (d : CommandDescriptor) : Effect → CommandDescriptor
  | .writeData bytes => d.writeData bytes
  | .writeMetadata bytes => d.writeMetadata bytes
  | .complete c => (d.complete? c).getD d

/-- The command after effects, in order. -/
def CommandDescriptor.afterAll (d : CommandDescriptor) (effects : List Effect) : CommandDescriptor :=
  effects.foldl CommandDescriptor.after d

/-- What a transport did to a command, and whether it delivered the command. -/
structure Answer where
  effects : List Effect := []
  result : Except TransportError Unit

/-- A way to deliver commands to a device with states in `σ`. -/
structure Transport (σ : Type) where
  execute : CommandDescriptor → World σ → Answer × World σ

/-- The target of the events logged here. -/
def transportTarget : String := "nvme_passthru::transport"

/-- The event of a command that is about to be executed. -/
def CommandDescriptor.issuing (d : CommandDescriptor) : Event :=
  ⟨.debug, transportTarget, "issuing command",
    [("opcode", d.opcode.display), ("nsid", toString d.nsid), ("cdw10", toString d.words.cdw10),
     ("data_len", toString d.dataLength)]⟩

/-- The event of a completed command. -/
def Completion.reached (c : Completion) : Event :=
  ⟨.trace, transportTarget, "command completed", [("outcome", c.status.text), ("result", toString c.result)]⟩

/-- Executes a command that has no completion yet. The result is the status that the transport recorded; the command
comes back as the transport left it. -/
def issue {σ : Type} (t : Transport σ) (d : CommandDescriptor) (w : World σ) :
    Except TransportError StatusWord × CommandDescriptor × World σ :=
  if d.isCompleted then (.error .alreadyExecuted, d, w)
  else
    let (answer, w) := t.execute d (w.note d.issuing)
    let d := d.afterAll answer.effects
    match answer.result, d.completion with
    | .error e, _ => (.error e, d, w)
    | .ok (), none => (.error .notCompleted, d, w)
    | .ok (), some c => (.ok c.status, d, w.note c.reached)

end StorageCommands.Nvme
