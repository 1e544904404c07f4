import StorageCommands.Code

/-!
# SCSI operations

The operation code is the first byte of a SCSI command block.
-/

namespace StorageCommands.Scsi

/-- The operation code of a command block. -/
abbrev Operation := UInt8

namespace Operation

/-- An ATA command in a block of 16 bytes. -/
def ataPassThrough16 : Operation := 0x85

/-- An ATA command in a block of 12 bytes. -/
def ataPassThrough12 : Operation := 0xa1

def family : CodeFamily where
  name := "ScsiOp"
  names :=
    [(0x00, "TEST_UNIT_READY"), (0x03, "REQUEST_SENSE"), (0x12, "INQUIRY"), (0x1a, "MODE_SENSE"),
     (0x1b, "START_STOP_UNIT"), (0x1d, "SEND_DIAGNOSTIC"), (0x25, "READ_CAPACITY"), (0x28, "READ"), (0x2a, "WRITE"),
     (0x2f, "VERIFY"), (0x35, "SYNCHRONIZE_CACHE"), (0x3b, "WRITE_DATA_BUFF"), (0x3c, "READ_DATA_BUFF"),
     (0x4d, "LOG_SENSE"), (0x5a, "MODE_SENSE10"), (0x85, "ATA_PASSTHROUGH16"), (0x88, "READ16"), (0x8a, "WRITE16"),
     (0x9e, "SERVICE_ACTION_IN16"), (0xa0, "REPORT_LUNS"), (0xa1, "ATA_PASSTHROUGH12"),
     (0xa2, "SECURITY_PROTOCOL_IN"), (0xb5, "SECURITY_PROTOCOL_OUT")]

end Operation

end StorageCommands.Scsi
