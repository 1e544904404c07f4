import StorageCommands.Nvme.Admin

/-!
# Errors of the persistent event log

Why the log cannot be read, or its events not be told apart.
-/

namespace StorageCommands.EventLog

open Nvme

/-- Why the persistent event log gives no answer. -/
inductive Error
  /-- The reporting context was not established, and none was there before. -/
  | establishFailed (status : StatusWord)
  /-- An event reaches past the end of the log. -/
  | truncatedLog (index offset needed available : Nat)
  /-- A failure left open whether there is a reporting context. -/
  | unknownContext
  /-- There is no reporting context to read from. -/
  | noContext
  /-- A read failed; what was read before it is kept. -/
  | readFailed (offset : Nat) (status : StatusWord)
  /-- The log is longer than the session reads, or than one transfer holds where the controller takes no offsets. -/
  | logTooLarge (len : Nat)
  /-- The controller has no persistent event log. -/
  | unsupported
  /-- The chunk size is no positive multiple of 4. -/
  | invalidChunkSize (size : Nat)
  | header (cause : Layout.Error)
  | build (cause : BuildError)
  /-- A command was not delivered; whether there is a reporting context is unknown. -/
  | transport (cause : TransportError)
  | identify (cause : CommandError)
  deriving DecidableEq, Repr

namespace Error

def kind : Error → String
  | establishFailed _ => "EstablishFailed"
  | truncatedLog .. => "TruncatedLog"
  | unknownContext => "UnknownContextState"
  | noContext => "ContextNotEstablished"
  | readFailed .. => "ReadFailed"
  | logTooLarge _ => "LogTooLarge"
  | unsupported => "Unsupported"
  | invalidChunkSize _ => "InvalidChunkSize"
  | header _ => "Header"
  | build _ => "Build"
  | transport _ => "Transport"
  | identify _ => "Identify"

def message : Error → String
  | establishFailed status => "failed to establish the reporting context: " ++ status.text
  | truncatedLog index offset needed available =>
    "log truncated: event " ++ toString index ++ " at offset " ++ toString offset ++ " needs " ++ toString needed
      ++ " bytes, " ++ toString available ++ " remain"
  | unknownContext => "reporting context state is unknown"
  | noContext => "no reporting context is established"
  | readFailed offset status => "log read at offset " ++ toString offset ++ " failed: " ++ status.text
  | logTooLarge len => "log of " ++ toString len ++ " bytes is too large to read"
  | unsupported => "persistent event log is not supported"
  | invalidChunkSize size => "invalid chunk size " ++ toString size
  | header _ => "malformed log header"
  | build _ => "failed to build command"
  | transport _ => "transport error"
  | identify _ => "failed to identify the controller"

def chain (e : Error) : List Reason :=
  ⟨e.kind, e.message⟩ :: match e with
    | header cause => cause.chain
    | build cause => cause.chain
    | transport cause => cause.chain
    | identify cause => cause.chain
    | _ => []

end Error

end StorageCommands.EventLog
