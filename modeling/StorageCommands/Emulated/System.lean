import StorageCommands.Emulated.Controller
import StorageCommands.Emulated.FileTree
import StorageCommands.Linux.Device

/-!
# A Linux system in memory

A system with a file tree whose kernel answers the control requests of a device file from a list of replies, so that
the transport on device files can be tried without hardware. It writes down the requests that it gets.
-/

namespace StorageCommands.Emulated

open Linux Nvme

/-- What the next system call that opens a file is to do: fail, or remove the path right after. -/
structure OpenTrap where
  errno : Option Errno := none
  vanish : Bool := false
  deriving DecidableEq, Repr

/-- An open file. -/
structure OpenFile where
  inode : Inode
  mode : OpenMode
  deriving DecidableEq, Repr

/-- What the kernel does with one request; where an error number is given, the request fails. -/
structure ScriptedReply where
  write : List (Nat × Bytes) := []
  writeMetadata : List (Nat × Bytes) := []
  result : UInt32 := 0
  returned : Int := 0
  errno : Option Errno := none
  deriving DecidableEq, Repr

/-- A request that the kernel got. -/
structure Recorded where
  code : UInt32
  request : Request
  /-- Whether the open file is the one that the path of the device names. -/
  isCurrent : Bool
  mode : OpenMode
  deriving DecidableEq, Repr

/-- The state of a system. -/
structure Kernel where
  files : FileTree := {}
  trap : OpenTrap := {}
  replies : List ScriptedReply := []
  /-- The path of the device. -/
  path : String := ""
  /-- The requests, the latest first. -/
  requests : List Recorded := []
  deriving Repr

namespace Kernel

/-- Whether no system call takes a path. -/
def hasNul (path : String) : Bool := path.toList.any (· = '\x00')

/-- Opens a file. A directory opens for reading only. A system call that a signal interrupted is made again. -/
def openFile (path : String) (mode : OpenMode) (k : Kernel) : Except SystemError OpenFile × Kernel :=
  if hasNul path then (.error .nulInPath, k)
  else
    let trap := if k.trap.errno = some Errno.interrupted then {} else k.trap
    let k := { k with trap := {} }
    match trap.errno, k.files.find path with
    | some e, _ | none, .error e => (.error (.errno e), k)
    | none, .ok i =>
      if k.files.isDirectory i && mode.writable then (.error (.errno FileTree.isADirectory), k)
      else (.ok ⟨i, mode⟩, { k with files := if trap.vanish then k.files.remove path else k.files })

/-- Asks which file a path names. -/
def identify (path : String) (k : Kernel) : Except SystemError Identity × Kernel :=
  if hasNul path then (.error .nulInPath, k)
  else
    match k.files.find path with
    | .ok i => (.ok ⟨1, i, 0⟩, k)
    | .error e => (.error (.errno e), k)

/-- Answers a request with the next reply; without one, device files take no such requests. -/
def control (f : OpenFile) (code : UInt32) (request : Request) (d : CommandDescriptor) (k : Kernel) :
    Reply × Kernel :=
  let isCurrent := match k.files.find k.path with
    | .ok i => i = f.inode
    | .error _ => false
  let reply := k.replies.headD { errno := some Errno.notControllable }
  ({ data := Bytes.patch (d.data.getD []) reply.write
     metadata := Bytes.patch (d.metadata.elim [] (·.bytes)) reply.writeMetadata
     result := reply.result
     returned := if reply.errno.isSome then -1 else reply.returned
     errno := reply.errno.getD 0 },
   { k with replies := k.replies.tail, requests := ⟨code, request, isCurrent, f.mode⟩ :: k.requests })

/-- The system calls. The buffers of every command lie at the same two addresses. -/
def system (place : Placement) : System Kernel OpenFile where
  openFile := openFile
  identify := identify
  control := control
  placement := fun _ => place

end Kernel

end StorageCommands.Emulated
