import StorageCommands.Nvme.Identify
import StorageCommands.Nvme.LogPage
import StorageCommands.Nvme.Transport

/-!
# Admin commands

`GetLogPage.command` builds the command that reads a part of a log page. `identifyController`, `identifyNamespace` and
`healthLog` each put one command on a transport and read its answer; they fail unless the command completes with
success.
-/

namespace StorageCommands.Nvme

open Layout Trace

/-- The namespace identifier that stands for all namespaces, or for the controller. -/
def allNamespaces : UInt32 := 0xffffffff

/-- Why an admin command gave no answer. -/
inductive CommandError
  | build (cause : BuildError)
  | transport (cause : TransportError)
  /-- The command completed with another status than success. -/
  | failed (status : StatusWord)
  /-- The answer is too short. -/
  | decode (cause : Layout.Error)
  deriving DecidableEq, Repr

namespace CommandError

def kind : CommandError → String
  | build _ => "Build"
  | transport _ => "Transport"
  | failed _ => "Failed"
  | decode _ => "Decode"

def message : CommandError → String
  | build _ => "failed to build command"
  | transport _ => "transport error"
  | failed status => "command failed: " ++ status.text
  | decode _ => "malformed response"

def chain (e : CommandError) : List Reason :=
  ⟨e.kind, e.message⟩ :: match e with
    | build cause => cause.chain
    | transport cause => cause.chain
    | failed _ => []
    | decode cause => cause.chain

end CommandError

/-! ## Get Log Page -/

/-- What to read of a log page. -/
structure GetLogPage where
  page : LogPage
  /-- A parameter whose meaning depends on the page. -/
  parameter : UInt8 := 0
  /-- Keep the event that the page belongs to. -/
  retainEvent : Bool := false
  nsid : UInt32 := 0
  /-- The offset of the first byte. -/
  offset : UInt64 := 0
  /-- The number of bytes. -/
  len : Nat
  /-- An identifier whose meaning depends on the page. -/
  identifier : UInt16 := 0
  uuidIndex : UInt8 := 0
  timeout : Option Duration := none
  deriving DecidableEq, Repr

namespace GetLogPage

/-- The command that reads into a buffer, or into a fresh one of its own. -/
def command (g : GetLogPage) (lent : Option DataBuffer) : Except BuildError CommandDescriptor := do
  CommandBuilder.checkAlignment g.len
  let dwords := g.len / 4 - 1
  let b : CommandBuilder := { opcode := .admin .getLogPage, nsid := g.nsid }
  let b ← b.encodeWord .cdw10 getLogPageDword10
    ⟨[(.lid, .uint g.page.toNat), (.lsp, .uint g.parameter.toNat), (.rae, .ofBool g.retainEvent),
      (.numdl, .uint (dwords % 0x10000))]⟩
  let b ← b.encodeWord .cdw11 getLogPageDword11
    ⟨[(.numdu, .uint (dwords / 0x10000)), (.lsi, .uint g.identifier.toNat)]⟩
  let b ← b.encodeWord .cdw12 getLogPageDword12 ⟨[(.lpol, .uint (g.offset.toNat % 0x100000000))]⟩
  let b ← b.encodeWord .cdw13 getLogPageDword13 ⟨[(.lpou, .uint (g.offset.toNat / 0x100000000))]⟩
  let b ← b.encodeWord .cdw14 getLogPageDword14 ⟨[(.uuidIndex, .uint g.uuidIndex.toNat)]⟩
  CommandBuilder.build
    { b with
      transferLength := some g.len
      region := lent.map fun buffer => ⟨buffer, true⟩
      timeout := g.timeout }

end GetLogPage

/-! ## Running commands -/

/-- Executes a command and fails unless it completes with success. -/
def run {σ : Type} (t : Transport σ) (d : CommandDescriptor) (w : World σ) :
    Except CommandError Unit × CommandDescriptor × World σ :=
  match issue t d w with
  | (.error e, d, w) => (.error (.transport e), d, w)
  | (.ok status, d, w) => (if status.isSuccess then .ok () else .error (.failed status), d, w)

/-- The target of the events logged here. -/
def adminTarget : String := "nvme_passthru::admin"

/-- Executes a command, reads the bytes that it transferred, and logs what was read. -/
def fetch {σ α : Type} (t : Transport σ) (command : Except BuildError CommandDescriptor)
    (decode : Bytes → Except Layout.Error α) (event : α → Event) : Action σ CommandError α := fun w =>
  match command with
  | .error e => (.error (.build e), w)
  | .ok d =>
    match run t d w with
    | (.error e, _, w) => (.error e, w)
    | (.ok (), d, w) =>
      match decode (d.data.getD []) with
      | .error e => (.error (.decode e), w)
      | .ok a => (.ok a, w.note (event a))

/-- The Identify command for a structure. -/
def identifyCommand (target : IdentifyTarget) (nsid : UInt32) : Except BuildError CommandDescriptor := do
  let b : CommandBuilder := { opcode := .admin .identify, nsid }
  let b ← b.encodeWord .cdw10 identifyDword10 ⟨[(.cns, .uint target.toNat)]⟩
  CommandBuilder.build { b with transferLength := some identifyLength }

/-- Asks the controller what it is. -/
def identifyController {σ : Type} (t : Transport σ) : Action σ CommandError ControllerIdentity :=
  fetch t (identifyCommand .forController 0) ControllerIdentity.decode fun identity =>
    ⟨.trace, adminTarget, "identify controller", [("identity", identity.display)]⟩

/-- Asks the controller about a namespace. -/
def identifyNamespace {σ : Type} (t : Transport σ) (nsid : UInt32) : Action σ CommandError NamespaceIdentity :=
  fetch t (identifyCommand .forNamespace nsid) NamespaceIdentity.decode fun identity =>
    ⟨.trace, adminTarget, "identify namespace", [("nsid", toString nsid), ("identity", identity.display)]⟩

/-- Reads the SMART / Health Information page of a namespace, or of the controller. -/
def healthLog {σ : Type} (t : Transport σ) (nsid : UInt32) : Action σ CommandError HealthSummary :=
  fetch t (GetLogPage.command { page := .health, len := healthLength, nsid } none) HealthSummary.decode fun summary =>
    ⟨.trace, adminTarget, "health log", [("summary", summary.display)]⟩

end StorageCommands.Nvme
