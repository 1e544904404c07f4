import StorageCommands.Bytes
import StorageCommands.Code
import StorageCommands.Reason
import StorageCommands.Register

/-!
# Sense data

A SCSI device explains a failed command with sense data. `SenseData` is the 18-byte fixed format as it stands in
memory, and `FixedSense.decode` reads sense data of any length: bytes past the length that the data declares, or past
its end, count as zero.
-/

namespace StorageCommands.Scsi

/-! ## Codes -/

/-- The kind of a failure. -/
abbrev SenseKey := UInt8

namespace SenseKey

/-- The command succeeded after the device took action. -/
def recoveredError : SenseKey := 0x01

def family : CodeFamily where
  name := "SenseKey"
  names :=
    [(0x00, "NO_SENSE"), (0x01, "RECOVERED_ERROR"), (0x02, "NOT_READY"), (0x03, "MEDIUM_ERROR"),
     (0x04, "HARDWARE_ERROR"), (0x05, "ILLEGAL_REQUEST"), (0x06, "UNIT_ATTENTION"), (0x07, "DATA_PROTECT"),
     (0x08, "BLANK_CHECK"), (0x09, "UNIQUE"), (0x0a, "COPY_ABORTED"), (0x0b, "ABORTED_COMMAND"), (0x0c, "EQUAL"),
     (0x0d, "VOL_OVERFLOW"), (0x0e, "MISCOMPARE"), (0x0f, "RESERVED")]

end SenseKey

/-- The format of sense data, and whether it is about the command at hand or an earlier one. -/
abbrev ResponseCode := UInt8

namespace ResponseCode

/-- Fixed format, about the command at hand. -/
def fixedCurrent : ResponseCode := 0x70

/-- Fixed format, about an earlier command. -/
def fixedDeferred : ResponseCode := 0x71

/-- Descriptor format, about the command at hand. -/
def descriptorCurrent : ResponseCode := 0x72

/-- Descriptor format, about an earlier command. -/
def descriptorDeferred : ResponseCode := 0x73

def family : CodeFamily where
  name := "SenseDataErrorCode"
  names :=
    [(0x70, "FIXED_CURRENT"), (0x71, "FIXED_DEFERRED"), (0x72, "DESCRIPTOR_CURRENT"), (0x73, "DESCRIPTOR_DEFERRED")]

end ResponseCode

/-- What failed. -/
abbrev AdditionalSenseCode := UInt8

namespace AdditionalSenseCode

/-- Nothing further. -/
def none : AdditionalSenseCode := 0x00

def family : CodeFamily where
  name := "AdditionalSenseCode"
  names :=
    [(0x00, "NO_SENSE"), (0x02, "NO_SEEK_COMPLETE"), (0x04, "LUN_NOT_READY"), (0x08, "LUN_COMMUNICATION"),
     (0x0b, "WARNING"), (0x0c, "WRITE_ERROR"), (0x10, "CRC_OR_ECC_ERROR"), (0x11, "UNRECOVERED_ERROR"),
     (0x20, "ILLEGAL_COMMAND"), (0x21, "ILLEGAL_BLOCK"), (0x24, "INVALID_CDB"), (0x25, "INVALID_LUN"),
     (0x26, "INVALID_FIELD_PARAMETER_LIST"), (0x27, "WRITE_PROTECT"), (0x28, "MEDIUM_CHANGED"), (0x29, "BUS_RESET"),
     (0x2a, "PARAMETERS_CHANGED"), (0x2c, "COMMAND_SEQUENCE_ERROR"), (0x3a, "NO_MEDIA_IN_DEVICE"),
     (0x3e, "LOGICAL_UNIT_ERROR"), (0x44, "INTERNAL_TARGET_FAILURE"), (0x5d, "FAILURE_PREDICTION_THRESHOLD_EXCEEDED")]

end AdditionalSenseCode

/-- The qualifier that, with no additional sense code, says that ATA registers follow. -/
def ataInformationAvailable : UInt8 := 0x1d

/-! ## Fixed format -/

/-- The response code in the first byte. -/
def responseCodeField : RegisterField := .number "error_code" 0 7

/-- The information field is defined. -/
def informationValidField : RegisterField := .bit "valid" 7

def responseByte : RegisterLayout := ⟨"SenseErrorCodeByte", 1, [responseCodeField, informationValidField]⟩

/-- The sense key in the third byte. -/
def senseKeyField : RegisterField := .number "sense_key" 0 4

/-- The length that was asked for does not fit the block. -/
def incorrectLengthField : RegisterField := .bit "incorrect_length" 5

/-- The end of the medium was reached. -/
def endOfMediaField : RegisterField := .bit "end_of_media" 6

/-- A file mark was reached. -/
def fileMarkField : RegisterField := .bit "file_mark" 7

def senseKeyByte : RegisterLayout :=
  ⟨"SenseKeyByte", 1, [senseKeyField, incorrectLengthField, endOfMediaField, fileMarkField]⟩

/-- The number of bytes up to the declared length, which counts the bytes after it. -/
def senseHeaderLength : Nat := 8

def senseLength : Nat := 18

/-- Sense data in fixed format. -/
structure SenseData where
  /-- The response code, with the validity of the information field. -/
  response : UInt8
  segment : UInt8
  /-- The sense key, with three flags. -/
  key : UInt8
  information : UInt32
  /-- The number of bytes after this one. -/
  additionalLength : UInt8
  commandSpecific : UInt32
  code : AdditionalSenseCode
  qualifier : UInt8
  fieldReplaceableUnit : UInt8
  /-- Three bytes whose meaning depends on the sense key. -/
  keySpecific : UInt8 × UInt8 × UInt8
  deriving DecidableEq, Repr

namespace SenseData

/-- Sense data about the command at hand that says no more than a key, a code and a qualifier. -/
def new (key : SenseKey) (code : AdditionalSenseCode) (qualifier : UInt8) : SenseData where
  response := ResponseCode.fixedCurrent
  segment := 0
  key := UInt8.ofNat (senseKeyField.set 0 key.toNat)
  information := 0
  additionalLength := UInt8.ofNat (senseLength - senseHeaderLength)
  commandSpecific := 0
  code
  qualifier
  fieldReplaceableUnit := 0
  keySpecific := (0, 0, 0)

/-- The 18 bytes of sense data. -/
def toBytes (s : SenseData) : Bytes :=
  [s.response, s.segment, s.key] ++ Bytes.ofBigEndian 4 s.information.toNat ++ [s.additionalLength]
    ++ Bytes.ofBigEndian 4 s.commandSpecific.toNat
    ++ [s.code, s.qualifier, s.fieldReplaceableUnit, s.keySpecific.1, s.keySpecific.2.1, s.keySpecific.2.2]

/-- The sense data that 18 bytes hold. -/
def ofBytes (b : Bytes) : SenseData where
  response := b.byteAt 0
  segment := b.byteAt 1
  key := b.byteAt 2
  information := UInt32.ofNat (b.slice 3 4).bigEndian
  additionalLength := b.byteAt 7
  commandSpecific := UInt32.ofNat (b.slice 8 4).bigEndian
  code := b.byteAt 12
  qualifier := b.byteAt 13
  fieldReplaceableUnit := b.byteAt 14
  keySpecific := (b.byteAt 15, b.byteAt 16, b.byteAt 17)

end SenseData

/-! ## Decoding -/

/-- Why sense data cannot be read. -/
inductive SenseError
  /-- The data ends before the byte that declares its length. -/
  | tooShort (len : Nat)
  /-- The data is in descriptor format. -/
  | descriptorFormat (code : ResponseCode)
  | unknownResponseCode (code : ResponseCode)
  deriving DecidableEq, Repr

namespace SenseError

def kind : SenseError → String
  | tooShort _ => "TooShort"
  | descriptorFormat _ => "DescriptorFormat"
  | unknownResponseCode _ => "UnknownResponseCode"

def message : SenseError → String
  | tooShort len => "sense data of " ++ toString len ++ " bytes is too short"
  | descriptorFormat code => "descriptor format sense data (response code " ++ Number.hex code.toNat ++ ")"
  | unknownResponseCode code => "unknown sense response code " ++ Number.hex code.toNat

def chain (e : SenseError) : List Reason := [⟨e.kind, e.message⟩]

end SenseError

/-- What sense data in fixed format says. -/
structure FixedSense where
  responseCode : ResponseCode
  /-- Whether the information is defined. -/
  valid : Bool
  key : SenseKey
  incorrectLength : Bool
  endOfMedia : Bool
  fileMark : Bool
  information : UInt32
  commandSpecific : UInt32
  code : AdditionalSenseCode
  qualifier : UInt8
  fieldReplaceableUnit : UInt8
  keySpecific : UInt8 × UInt8 × UInt8
  deriving DecidableEq, Repr

namespace FixedSense

/-- What 18 bytes of sense data say. -/
def ofData (s : SenseData) : FixedSense where
  responseCode := UInt8.ofNat (responseCodeField.get s.response.toNat)
  valid := informationValidField.test s.response.toNat
  key := UInt8.ofNat (senseKeyField.get s.key.toNat)
  incorrectLength := incorrectLengthField.test s.key.toNat
  endOfMedia := endOfMediaField.test s.key.toNat
  fileMark := fileMarkField.test s.key.toNat
  information := s.information
  commandSpecific := s.commandSpecific
  code := s.code
  qualifier := s.qualifier
  fieldReplaceableUnit := s.fieldReplaceableUnit
  keySpecific := s.keySpecific

/-- Reads sense data in fixed format. -/
def decode (data : Bytes) : Except SenseError FixedSense :=
  if data.length < senseHeaderLength then .error (.tooShort data.length)
  else
    let declared := data.take (senseHeaderLength + (data.byteAt 7).toNat)
    let sense := ofData (.ofBytes (Bytes.fill (Bytes.zeros senseLength) declared))
    if sense.responseCode = .fixedCurrent ∨ sense.responseCode = .fixedDeferred then .ok sense
    else if sense.responseCode = .descriptorCurrent ∨ sense.responseCode = .descriptorDeferred then
      .error (.descriptorFormat sense.responseCode)
    else .error (.unknownResponseCode sense.responseCode)

/-- Whether the sense data carries the ATA registers of a command that asked for them. -/
def hasAtaStatus (s : FixedSense) : Bool :=
  s.key = .recoveredError && s.code = .none && s.qualifier = ataInformationAvailable

end FixedSense

end StorageCommands.Scsi
