import StorageCommands.Code

/-!
# Opcodes

An NVMe command belongs to the admin or to the I/O command set; the low two bits of its opcode say in which
directions it moves data.
-/

namespace StorageCommands.Nvme

/-- An opcode of the admin command set. -/
abbrev AdminOpcode := UInt8

namespace AdminOpcode

/-- Get Log Page. -/
def getLogPage : AdminOpcode := 0x02

/-- Identify. -/
def identify : AdminOpcode := 0x06

def family : CodeFamily where
  name := "AdminOpcode"
  names :=
    [(0x00, "DELETE_IO_SUBMISSION_QUEUE"), (0x01, "CREATE_IO_SUBMISSION_QUEUE"), (0x02, "GET_LOG_PAGE"),
     (0x04, "DELETE_IO_COMPLETION_QUEUE"), (0x05, "CREATE_IO_COMPLETION_QUEUE"), (0x06, "IDENTIFY"), (0x08, "ABORT"),
     (0x09, "SET_FEATURES"), (0x0a, "GET_FEATURES"), (0x0c, "ASYNCHRONOUS_EVENT_REQUEST"),
     (0x0d, "NAMESPACE_MANAGEMENT"), (0x10, "FIRMWARE_COMMIT"), (0x11, "FIRMWARE_IMAGE_DOWNLOAD"),
     (0x14, "DEVICE_SELF_TEST"), (0x15, "NAMESPACE_ATTACHMENT"), (0x18, "KEEP_ALIVE"), (0x19, "DIRECTIVE_SEND"),
     (0x1a, "DIRECTIVE_RECEIVE"), (0x1d, "NV_ME_MI_SEND"), (0x1e, "NV_ME_MI_RECEIVE"), (0x80, "FORMAT_NVM"),
     (0x81, "SECURITY_SEND"), (0x82, "SECURITY_RECEIVE"), (0x84, "SANITIZE"), (0x86, "GET_LBA_STATUS")]

end AdminOpcode

/-- An opcode of the NVM command set. -/
abbrev IoOpcode := UInt8

namespace IoOpcode

/-- The named I/O opcodes. -/
def family : CodeFamily where
  name := "NvmOpcode"
  names :=
    [(0x00, "FLUSH"), (0x01, "WRITE"), (0x02, "READ"), (0x04, "WRITE_UNCORRECTABLE"), (0x05, "COMPARE"),
     (0x08, "WRITE_ZEROES"), (0x09, "DSM"), (0x0c, "VERIFY"), (0x0d, "RESERVATION_REGISTER"),
     (0x0e, "RESERVATION_REPORT"), (0x11, "RESERVATION_ACQUIRE"), (0x15, "RESERVATION_RELEASE")]

end IoOpcode

/-- The directions in which a command moves data. -/
inductive Direction
  | none
  | hostToController
  | controllerToHost
  | bidirectional
  deriving DecidableEq, Repr

/-- An opcode with the command set that it belongs to. -/
inductive Opcode
  | admin (code : AdminOpcode)
  | io (code : IoOpcode)
  deriving DecidableEq, Repr

namespace Opcode

/-- The opcode byte. -/
def code : Opcode → UInt8
  | admin code => code
  | io code => code

/-- Whether the command moves data to the controller. -/
def toController (op : Opcode) : Bool := op.code.toNat.testBit 0

/-- Whether the command moves data to the host. -/
def toHost (op : Opcode) : Bool := op.code.toNat.testBit 1

/-- The directions in which the command moves data. -/
def direction (op : Opcode) : Direction :=
  match op.toController, op.toHost with
  | false, false => .none
  | true, false => .hostToController
  | false, true => .controllerToHost
  | true, true => .bidirectional

def display : Opcode → String
  | admin code => Display.applied "Admin" (AdminOpcode.family.display code.toNat)
  | io code => Display.applied "Io" (IoOpcode.family.display code.toNat)

end Opcode

end StorageCommands.Nvme
