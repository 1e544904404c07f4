import StorageCommands.Code
import StorageCommands.Register

/-!
# Completion status

The status of a completed command is a 16-bit word: a status code, its type, a retry delay index, and the flags MORE
and DNR (do not retry). `StatusWord.bucket` says what a caller should do with it: zero code and type is the only
success; of the failures, those without DNR whose type is generic, command specific or path related may be retried.
-/

namespace StorageCommands.Nvme

/-- A status code together with its type: the type times 256 plus the code. -/
structure StatusCode where
  value : UInt16
  deriving DecidableEq, Repr

namespace StatusCode

/-- The code within its type. -/
def code (s : StatusCode) : UInt8 := s.value.toUInt8

/-- The type of the code. -/
def type (s : StatusCode) : UInt8 := (s.value >>> 8).toUInt8

/-- The status of a command that succeeded. -/
def success : StatusCode := ⟨0x00⟩

/-- The status of a command that another command should have come before or after. -/
def commandSequenceError : StatusCode := ⟨0x0c⟩

def family : CodeFamily where
  name := "Status"
  names :=
    [(0x00, "SUCCESS"), (0x01, "INVALID_COMMAND_OPCODE"), (0x02, "INVALID_FIELD_IN_COMMAND"),
     (0x03, "COMMAND_ID_CONFLICT"), (0x04, "DATA_TRANSFER_ERROR"),
     (0x05, "COMMANDS_ABORTED_DUE_TO_POWER_LOSS_NOTIFICATION"), (0x06, "INTERNAL_ERROR"),
     (0x07, "COMMAND_ABORT_REQUESTED"), (0x0b, "INVALID_NAMESPACE_OR_FORMAT"), (0x0c, "COMMAND_SEQUENCE_ERROR"),
     (0x15, "OPERATION_DENIED"), (0x1d, "SANITIZE_IN_PROGRESS"), (0x20, "NAMESPACE_IS_WRITE_PROTECTED"),
     (0x21, "COMMAND_INTERRUPTED"), (0x22, "TRANSIENT_TRANSPORT_ERROR"), (0x24, "ADMIN_COMMAND_MEDIA_NOT_READY"),
     (0x80, "LBA_OUT_OF_RANGE"), (0x81, "CAPACITY_EXCEEDED"), (0x82, "NAMESPACE_NOT_READY"),
     (0x83, "RESERVATION_CONFLICT"), (0x84, "FORMAT_IN_PROGRESS"), (0x109, "INVALID_LOG_PAGE"),
     (0x10a, "INVALID_FORMAT"), (0x11d, "DEVICE_SELF_TEST_IN_PROGRESS"), (0x280, "MEDIA_WRITE_FAULT"),
     (0x281, "MEDIA_UNRECOVERED_READ_ERROR"), (0x282, "MEDIA_END_TO_END_GUARD_CHECK_ERROR"),
     (0x283, "MEDIA_END_TO_END_APPLICATION_TAG_CHECK_ERROR"), (0x284, "MEDIA_END_TO_END_REFERENCE_TAG_CHECK_ERROR"),
     (0x285, "MEDIA_COMPARE_FAILURE"), (0x286, "MEDIA_ACCESS_DENIED"),
     (0x287, "MEDIA_DEALLOCATED_OR_UNWRITTEN_LOGICAL_BLOCK")]

end StatusCode

/-- The type of a status code. -/
abbrev StatusCodeType := UInt8

namespace StatusCodeType

/-- Status that any command can have. -/
def generic : StatusCodeType := 0

/-- Status whose meaning depends on the command. -/
def commandSpecific : StatusCodeType := 1

/-- Errors of the medium and of data integrity. -/
def mediaError : StatusCodeType := 2

/-- Errors on the way to the controller. -/
def pathRelated : StatusCodeType := 3

/-- Status that the vendor defines. -/
def vendorSpecific : StatusCodeType := 7

def family : CodeFamily where
  name := "StatusCodeType"
  names :=
    [(0x00, "GENERIC"), (0x01, "COMMAND_SPECIFIC"), (0x02, "MEDIA_ERROR"), (0x03, "PATH_RELATED"),
     (0x07, "VENDOR_SPECIFIC")]

/-- What a message calls a type. -/
def label (t : StatusCodeType) : String :=
  if t = generic then "generic"
  else if t = commandSpecific then "command-specific"
  else if t = mediaError then "media error"
  else if t = pathRelated then "path related"
  else if t = vendorSpecific then "vendor specific"
  else "reserved"

end StatusCodeType

/-- The status field of a completion, without the phase tag. -/
structure StatusWord where
  raw : UInt16
  deriving DecidableEq, Repr

/-- What a caller should do with a completed command. -/
inductive Bucket
  /-- The command succeeded. -/
  | success
  /-- The command failed and may succeed if issued again. -/
  | retryable
  /-- The command failed and must not be issued again. -/
  | fatal
  deriving DecidableEq, Repr

def Bucket.label : Bucket → String
  | success => "success"
  | retryable => "retryable"
  | fatal => "fatal"

namespace StatusWord

/-! ## Fields -/

def codeField : RegisterField := .number "status_code" 0 8

def typeField : RegisterField := .number "status_code_type" 8 3

def retryDelayField : RegisterField := .number "crd" 11 2

/-- The bit that says that more status is in the error log. -/
def moreField : RegisterField := .bit "more" 13

/-- The bit that forbids to issue the command again. -/
def doNotRetryField : RegisterField := .bit "dnr" 14

/-- The layout of a status word; its highest bit is reserved. -/
def layout : RegisterLayout :=
  ⟨"StatusWord", 2, [codeField, typeField, retryDelayField, moreField, doNotRetryField]⟩

/-- The status code within its type. -/
def code (w : StatusWord) : UInt8 := UInt8.ofNat (codeField.get w.raw.toNat)

/-- The type of the status code. -/
def type (w : StatusWord) : StatusCodeType := UInt8.ofNat (typeField.get w.raw.toNat)

/-- The retry delay index. -/
def retryDelay (w : StatusWord) : UInt8 := UInt8.ofNat (retryDelayField.get w.raw.toNat)

/-- Whether more status is in the error log. -/
def more (w : StatusWord) : Bool := moreField.test w.raw.toNat

/-- Whether the command must not be issued again. -/
def doNotRetry (w : StatusWord) : Bool := doNotRetryField.test w.raw.toNat

/-! ## Meaning -/

/-- The status code with its type. -/
def status (w : StatusWord) : StatusCode := ⟨256 * w.type.toUInt16 + w.code.toUInt16⟩

/-- Whether the command succeeded. -/
def isSuccess (w : StatusWord) : Bool := w.status = .success

/-- Whether the command came out of order with another one. -/
def isSequenceError (w : StatusWord) : Bool := w.status = .commandSequenceError

/-- What a caller should do with the command. -/
def bucket (w : StatusWord) : Bucket :=
  if w.isSuccess then .success
  else if w.doNotRetry then .fatal
  else if w.type = .generic ∨ w.type = .commandSpecific ∨ w.type = .pathRelated then .retryable
  else .fatal

def text (w : StatusWord) : String :=
  w.bucket.label ++ " (" ++ w.type.label ++ " sct=" ++ Number.hex w.type.toNat ++ " sc="
    ++ Number.hexPadded 2 w.code.toNat ++ " crd=" ++ toString w.retryDelay.toNat ++ " more="
    ++ toString w.more.toNat ++ " dnr=" ++ toString w.doNotRetry.toNat ++ ")"

/-- The status word as one line of its fields. -/
def display (w : StatusWord) : String := layout.display w.raw.toNat

end StatusWord

end StorageCommands.Nvme
