import StorageCommands.Linux.Request
import StorageCommands.Nvme.Transport

/-!
# NVMe device files

A transport on an NVMe device file of Linux. `openDevice` opens the file, and `execute` hands commands to the kernel.
Before a command it looks whether the path names another device by now, and opens that one if so.

What the kernel does is the reader's choice: `System` holds the three calls that a device makes, for systems with
states in `σ` and open files in `φ`.
-/

namespace StorageCommands.Linux

open Nvme Trace

/-! ## The system -/

/-- What tells one file from another. -/
structure Identity where
  device : Nat
  inode : Nat
  deviceType : Nat
  deriving DecidableEq, Repr

/-- How to open a device. -/
structure Options where
  readOnly : Bool := false
  /-- Before each command, look whether the path names another device. -/
  detectReplug : Bool := true
  deriving DecidableEq, Repr

/-- How a file is opened. -/
structure OpenMode where
  writable : Bool
  /-- Do not wait for the device. -/
  nonBlocking : Bool
  deriving DecidableEq, Repr

/-- Devices are opened without waiting for them. -/
def Options.mode (o : Options) : OpenMode := ⟨!o.readOnly, true⟩

/-- What the kernel does with a request: it may write to the data and the metadata, it sets the result, and it returns
a number, with an error number where that is -1. -/
structure Reply where
  data : Bytes := []
  metadata : Bytes := []
  result : UInt32 := 0
  returned : Int := 0
  errno : Errno := 0
  deriving DecidableEq, Repr

/-- The calls that a device makes. -/
structure System (σ φ : Type) where
  /-- Opens the file at a path. -/
  openFile : (path : String) → OpenMode → σ → Except SystemError φ × σ
  /-- Asks which file a path names. -/
  identify : (path : String) → σ → Except SystemError Identity × σ
  /-- Hands a request to the kernel. -/
  control : φ → (code : UInt32) → Request → CommandDescriptor → σ → Reply × σ
  /-- Where the buffers of a command lie in memory. -/
  placement : CommandDescriptor → Placement

/-- An open device. -/
structure Device (φ : Type) where
  path : String
  file : φ
  identity : Identity
  options : Options
  deriving Repr

/-- The target of the events logged here. -/
def deviceTarget : String := "nvme_passthru::linux"

/-- The name under which identities are shown. -/
def Identity.typeName : String := "DeviceIdentity"

/-- The identity of a file as one line. -/
def Identity.display (i : Identity) : String :=
  Display.record typeName
    [("dev", toString i.device), ("ino", toString i.inode), ("rdev", toString i.deviceType)]

/-- An event with the numbers of the identities in it left out, as they differ from run to run. -/
def Identity.hideIn (e : Event) : Event :=
  let hide (value : String) : String := if value.startsWith (typeName ++ " ") then Number.hidden value else value
  { e with values := e.values.map fun (name, value) => (name, hide value) }

/-! ## Opening -/

variable {σ φ : Type}

/-- Why a device was not opened, from what the system said about its file. -/
def openError (path : String) (cause : SystemError) : TransportError :=
  if cause.isNotFound then .notFound path
  else if cause.isPermissionDenied then .permissionDenied path
  else .notOpened path cause

/-- Opens the device at a path. -/
def openDevice (sys : System σ φ) (path : String) (options : Options) : Action σ TransportError (Device φ) := fun w =>
  match sys.openFile path options.mode w.device with
  | (.error e, s) => (.error (openError path (.onFile .opening path e)), { w with device := s })
  | (.ok file, s) =>
    match sys.identify path s with
    | (.error e, s) => (.error (.notOpened path (.onFile .querying path e)), { w with device := s })
    | (.ok identity, s) =>
      let w := { w with device := s }
      (.ok { path, file, identity, options },
        w.note ⟨.debug, deviceTarget, "opened nvme device", [("path", path), ("identity", identity.display)]⟩)

/-! ## Executing -/

/-- The state that the transport on a device file works on: the device as it is open now, and the system. -/
structure Host (σ φ : Type) where
  device : Device φ
  system : σ

/-- Opens the device that the path names if it is another one than before. -/
def checkReplug (sys : System σ φ) (w : World (Host σ φ)) : Except TransportError Unit × World (Host σ φ) :=
  let device := w.device.device
  if !device.options.detectReplug then (.ok (), w)
  else
    match sys.identify device.path w.device.system with
    | (.error e, s) =>
      (.error (.notReopened device.path (.onFile .querying device.path e)), { w with device.system := s })
    | (.ok identity, s) =>
      let w := { w with device.system := s }
      if identity = device.identity then (.ok (), w)
      else
        let w := w.note ⟨.warn, deviceTarget, "device changed, reopening",
          [("path", device.path), ("old", device.identity.display), ("new", identity.display)]⟩
        match sys.openFile device.path device.options.mode s with
        | (.error e, s) =>
          (.error (.notReopened device.path (.onFile .opening device.path e)), { w with device.system := s })
        | (.ok file, s) => (.ok (), { w with device := ⟨{ device with file, identity }, s⟩ })

/-- The error of a buffer that the kernel's structure cannot describe. -/
def tooLarge (what : String) (len : Nat) : TransportError :=
  .requestFailed (.described (what ++ " length " ++ toString len ++ " does not fit the passthrough request"))

/-- The status that the kernel returns: its low 16 bits. -/
def statusOf (returned : Int) : StatusWord := ⟨UInt16.ofNat (returned % 0x10000).toNat⟩

/-- Hands a command to the kernel. -/
def submit (sys : System σ φ) (d : CommandDescriptor) (w : World (Host σ φ)) : Answer × World (Host σ φ) :=
  if 0x100000000 ≤ d.metadataLength then ({ result := .error (tooLarge "metadata" d.metadataLength) }, w)
  else if 0x100000000 ≤ d.dataLength then ({ result := .error (tooLarge "data" d.dataLength) }, w)
  else
    let request := Request.ofCommand d (sys.placement d)
    let (reply, s) := sys.control w.device.device.file (requestCode d.opcode) request d w.device.system
    let w := { w with device.system := s }
    let written := [.writeData reply.data, .writeMetadata reply.metadata]
    if reply.returned = -1 then
      let w :=
        if reply.errno = Errno.notControllable then
          w.note ⟨.warn, deviceTarget, "device does not accept nvme passthrough requests",
            [("path", w.device.device.path)]⟩
        else w
      ({ effects := written, result := .error (.requestFailed (.errno (Errno.known reply.errno))) }, w)
    else
      let completion : Completion := ⟨statusOf reply.returned, reply.result⟩
      ({ effects := written ++ [.complete completion],
         result := if d.isCompleted then .error .alreadyExecuted else .ok () }, w)

/-- Executes a command on the device that the path names. -/
def execute (sys : System σ φ) (d : CommandDescriptor) (w : World (Host σ φ)) : Answer × World (Host σ φ) :=
  match checkReplug sys w with
  | (.error e, w) => ({ result := .error e }, w)
  | (.ok (), w) => submit sys d w

/-- The transport on a device file. -/
def transport (sys : System σ φ) : Transport (Host σ φ) := ⟨execute sys⟩

end StorageCommands.Linux
