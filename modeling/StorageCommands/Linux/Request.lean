import StorageCommands.Nvme.Command

/-!
# Passthrough requests

The Linux kernel takes an NVMe command as a structure of 72 bytes with a control request to a device file, one request
for admin commands and one for I/O commands. `Request.ofCommand` fills in the structure for a command.
-/

namespace StorageCommands.Linux

open Nvme

/-- The structure that the kernel takes. -/
structure Request where
  opcode : UInt8
  flags : UInt8 := 0
  reserved : UInt16 := 0
  nsid : UInt32
  cdw2 : UInt32
  cdw3 : UInt32
  metadata : UInt64
  data : UInt64
  metadataLength : UInt32
  dataLength : UInt32
  words : Words
  timeoutMilliseconds : UInt32
  result : UInt32 := 0
  deriving DecidableEq, Repr

namespace Request

/-- The 72 bytes of the structure. -/
def toBytes (r : Request) : Bytes :=
  [r.opcode, r.flags] ++ wordBytes r.reserved ++ dwordBytes r.nsid ++ dwordBytes r.cdw2 ++ dwordBytes r.cdw3
    ++ qwordBytes r.metadata ++ qwordBytes r.data ++ dwordBytes r.metadataLength ++ dwordBytes r.dataLength
    ++ r.words.toList.flatMap dwordBytes ++ dwordBytes r.timeoutMilliseconds ++ dwordBytes r.result

/-- A timeout in milliseconds as far as 32 bits hold it; zero for none. -/
def timeoutField (timeout : Option Duration) : UInt32 :=
  timeout.elim 0 fun t => UInt32.ofNat (min t.milliseconds 0xffffffff)

/-- The structure for a command whose buffers lie at known addresses. -/
def ofCommand (d : CommandDescriptor) (place : Placement) : Request where
  opcode := d.opcode.code
  nsid := d.nsid
  cdw2 := d.cdw2
  cdw3 := d.cdw3
  metadata := d.metadata.elim 0 fun _ => place.metadata
  data := d.transfer.elim 0 fun _ => place.data
  metadataLength := UInt32.ofNat d.metadataLength
  dataLength := UInt32.ofNat d.dataLength
  words := d.words
  timeoutMilliseconds := timeoutField d.timeout

end Request

/-- The number of the control request that carries a command: the transfer goes both ways, the structure has 72
bytes, the type is the letter N, and the last byte tells admin from I/O commands. -/
def requestCode : Opcode → UInt32
  | .admin _ => 0xc0484e41
  | .io _ => 0xc0484e43

end StorageCommands.Linux
