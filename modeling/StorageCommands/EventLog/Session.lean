import StorageCommands.EventLog.Event

/-!
# Sessions on the persistent event log

A controller serves its persistent event log through a reporting context, which is established before the log is read
and released afterwards. A `Session` holds what the host believes about that context, the buffer that every transfer
goes through, and how far a read of the log has come.

- `establish` makes the context, or takes over one that is there.
- `readLog` reads the header, then the rest of the log in chunks; a read that failed halfway goes on where it was.
- `release` gives the context back, and `checkContext` asks whether there is one.
- `retrieve` does all of it.

Operations run in a `Dialogue`, a session and the world of its device, which stays as an operation has left it when
the operation fails.
-/

namespace StorageCommands.EventLog

open Nvme Trace

/-! ## State -/

/-- What the host believes about the reporting context. -/
inductive ContextState
  /-- There is none. -/
  | notEstablished
  /-- There is one. -/
  | established
  /-- A command failed in a way that leaves it open. -/
  | unknown
  deriving DecidableEq, Repr

def ContextState.label : ContextState → String
  | notEstablished => "NotEstablished"
  | established => "Established"
  | unknown => "Unknown"

/-- What a transfer does with the reporting context. -/
inductive ContextAction
  | read
  | establish
  | release
  deriving DecidableEq, Repr

namespace ContextAction

/-- The parameter of Get Log Page that asks for an action. -/
def code : ContextAction → UInt8
  | read => 0
  | establish => 1
  | release => 2

def family : CodeFamily where
  name := "PelAction"
  names := [(0x00, "READ_LOG_DATA"), (0x01, "ESTABLISH_CONTEXT_AND_READ"), (0x02, "RELEASE_CONTEXT")]

end ContextAction

/-- How a session reads. -/
structure Config where
  /-- The number of bytes of each transfer after the header, where the controller takes offsets. -/
  chunkSize : Nat := 16384
  timeout : Option Duration := none
  /-- The length of the longest log that is read, rounded up to whole units. -/
  maxLogLength : Nat := 256 * 1024 * 1024
  deriving DecidableEq, Repr

/-- A log that has been read in part. -/
structure Progress where
  header : Header
  /-- The rounded length of the log. -/
  total : Nat
  /-- How much of the log has been read. -/
  offset : Nat
  /-- The bytes before the offset. -/
  data : Bytes
  deriving DecidableEq, Repr

/-- What the host keeps while it reads a log. -/
structure Session where
  config : Config
  state : ContextState
  /-- Whether the controller takes long transfers and offsets. -/
  extended : Bool
  maxLogLength : Nat
  buffer : DataBuffer
  progress : Option Progress
  chunkSize_pos : 0 < config.chunkSize
  chunkSize_dvd : config.chunkSize % 4 = 0

/-- A log that has been read, cut to the length that its header reports. -/
structure Log where
  header : Header
  bytes : Bytes
  deriving DecidableEq, Repr

/-- Walks over the events of a log. -/
def Log.walk (log : Log) : Walk := EventLog.walk log.bytes log.header.totalEvents.toNat

/-- The largest transfer that Get Log Page describes in 16 bits. -/
def maxShortTransfer : Nat := 0x10000 * 4

namespace Session

/-- A session in which nothing has been done. -/
def new (extended : Bool) (config : Config) : Except Error Session :=
  if h : 0 < config.chunkSize ∧ config.chunkSize % 4 = 0 then
    .ok {
      config
      state := .notEstablished
      extended
      maxLogLength := config.maxLogLength
      buffer := .zeroed (max config.chunkSize headerLength)
      progress := none
      chunkSize_pos := h.1
      chunkSize_dvd := h.2 }
  else .error (.invalidChunkSize config.chunkSize)

/-- The rounded length of the log that is being read. -/
def totalLength (s : Session) : Option Nat := s.progress.map (·.total)

/-- The number of events of the log that is being read. -/
def totalEvents (s : Session) : Option UInt32 := s.progress.map (·.header.totalEvents)

/-- Where the next transfer of the log begins; zero if no log is being read. -/
def offset (s : Session) : Nat := s.progress.elim 0 (·.offset)

def display (s : Session) : String :=
  Display.record "PersistentEventLogSession"
    [("state", s.state.label), ("extended", Display.bool s.extended), ("max_log_len", toString s.maxLogLength),
     ("total_log_length", Display.option (s.totalLength.map toString)), ("current_byte_offset", toString s.offset)]

end Session

/-! ## Steps -/

/-- A session and the world of its device. -/
structure Dialogue (σ : Type) where
  session : Session
  world : World σ

/-- Work of a session. -/
abbrev SessionAction (σ α : Type) := ExceptT Error (StateM (Dialogue σ)) α

/-- The target of the events logged here. -/
def sessionTarget : String := "nvme_pel::session"

variable {σ : Type}

/-- Logs an event. -/
def note (level : Level) (message : String) (values : List (String × String)) : SessionAction σ Unit :=
  modify fun d => { d with world := d.world.note ⟨level, sessionTarget, message, values⟩ }

/-- Changes the session. -/
def update (f : Session → Session) : SessionAction σ Unit := modify fun d => { d with session := f d.session }

/-- Sets what the session believes about the context. A read is given up when there is none. -/
def setState (state : ContextState) : SessionAction σ Unit := do
  let s := (← get).session
  if s.state ≠ state then
    note .debug "reporting context state" [("from", s.state.label), ("to", state.label)]
  update fun s => { s with state, progress := if state = .notEstablished then none else s.progress }

/-- Gives up a read. -/
def dropProgress : SessionAction σ Unit := update fun s => { s with progress := none }

/-- Records how far a read has come. -/
def keepProgress (p : Progress) : SessionAction σ Unit := update fun s => { s with progress := some p }

/-- Does an action as an action that cannot fail, with its outcome as the result. -/
def attempt {α : Type} (x : SessionAction σ α) : SessionAction σ (Except Error α) := ExceptT.lift x.run

/-- The command that transfers `len` bytes of the log from an offset on through a buffer. -/
def Session.command (s : Session) (action : ContextAction) (offset len : Nat) (buffer : DataBuffer) :
    Except BuildError CommandDescriptor :=
  GetLogPage.command
    { page := .persistentEvent
      parameter := action.code
      nsid := allNamespaces
      offset := UInt64.ofNat offset
      len
      timeout := s.config.timeout }
    (some buffer)

/-- Transfers `len` bytes of the log into the session's buffer, which is replaced if it is too short. The context is
unknown after a command that was not delivered. -/
def getLog (t : Transport σ) (action : ContextAction) (offset len : Nat) : SessionAction σ StatusWord := do
  let s := (← get).session
  let buffer := if s.buffer.size < len then .zeroed len else s.buffer
  update fun s => { s with buffer }
  match s.command action offset len buffer with
  | .error e => throw (.build e)
  | .ok command =>
    let (result, command, world) := issue t command (← get).world
    modify fun d => { d with session.buffer := command.lentBuffer.getD buffer, world }
    match result with
    | .ok status =>
      note .trace "get log page"
        [("action", ContextAction.family.display action.code.toNat), ("offset", toString offset),
         ("len", toString len), ("outcome", status.text)]
      return status
    | .error e =>
      setState .unknown
      throw (.transport e)

/-- Makes the reporting context, or takes over one that is there; a read is given up. -/
def establish (t : Transport σ) : SessionAction σ Unit := do
  dropProgress
  let status ← getLog t .establish 0 headerLength
  if status.isSuccess then
    setState .established
  else if status.isSequenceError then
    note .warn "reporting context already established" [("outcome", status.text)]
    setState .established
  else
    setState .unknown
    throw (.establishFailed status)

/-- Fails unless a transfer was successful; after a sequence error there is no context. -/
def checkRead (status : StatusWord) (offset : Nat) : SessionAction σ Unit := do
  if status.isSuccess then return
  if status.isSequenceError then
    setState .notEstablished
    throw .noContext
  let values := [("offset", toString offset), ("outcome", status.text)]
  if status.bucket = .fatal then note .error "persistent event log read aborted" values
  else note .warn "persistent event log read failed" values
  throw (.readFailed offset status)

/-- Reads the header, with which a read begins. -/
def readHeader (t : Transport σ) : SessionAction σ Progress := do
  let status ← getLog t .read 0 headerLength
  checkRead status 0
  setState .established
  let s := (← get).session
  let data := s.buffer.bytes.take headerLength
  match Header.decode data with
  | .error e => throw (.header e)
  | .ok header =>
    let reported := header.totalLogLength.toNat
    let tooLarge (len : Nat) : SessionAction σ Progress := do
      note .warn "persistent event log length out of range"
        [("total_log_length", toString reported), ("max", toString s.maxLogLength)]
      throw (.logTooLarge len)
    match header.alignedLength with
    | none => tooLarge reported
    | some total =>
      if s.maxLogLength < total then tooLarge total
      else
        note .debug "persistent event log header"
          [("total_log_length", toString reported), ("total_len", toString total),
           ("events", toString header.totalEvents)]
        let p : Progress := { header, total, offset := headerLength, data }
        keepProgress p
        return p

/-- Reads the whole log in one transfer, which needs no offset. -/
def readWhole (t : Transport σ) (p : Progress) : SessionAction σ Progress := do
  if p.total ≤ p.offset then return p
  if maxShortTransfer < p.total then throw (.logTooLarge p.total)
  let status ← getLog t .read 0 p.total
  checkRead status 0
  let data := (← get).session.buffer.bytes.take p.total
  return { p with data, offset := p.total }

/-- A length rounded up to whole dwords. -/
def wholeDwords (len : Nat) : Nat := (len + 3) / 4 * 4

/-- Reads the rest of the log in chunks. -/
def readChunks (t : Transport σ) (chunkSize : Nat) (pos : 0 < chunkSize) (p : Progress) :
    SessionAction σ Progress := do
  if _h : p.offset < p.total then
    let remaining := p.total - p.offset
    let len := wholeDwords (min remaining chunkSize)
    let status ← getLog t .read p.offset len
    checkRead status p.offset
    let chunk := (← get).session.buffer.bytes.take (min len remaining)
    let next : Progress := { p with offset := p.offset + min len remaining, data := p.data ++ chunk }
    keepProgress next
    note .trace "persistent event log chunk" [("offset", toString next.offset), ("total", toString p.total)]
    readChunks t chunkSize pos next
  else
    return p
termination_by p.total - p.offset
decreasing_by
  simp only [wholeDwords]
  omega

/-! ## Operations -/

/-- Reads the log whatever the session believes about the context. -/
def readLogUnchecked (t : Transport σ) : SessionAction σ Log := do
  let p ← match (← get).session.progress with
    | some p => pure p
    | none => readHeader t
  let s := (← get).session
  let p ← if s.extended then readChunks t s.config.chunkSize s.chunkSize_pos p else readWhole t p
  dropProgress
  note .debug "read persistent event log"
    [("len", toString p.total), ("events", toString p.header.totalEvents)]
  return ⟨p.header, p.data.take p.header.totalLogLength.toNat⟩

/-- Reads the log if there is a context. -/
def readLog (t : Transport σ) : SessionAction σ Log := do
  match (← get).session.state with
  | .established => readLogUnchecked t
  | .notEstablished => throw .noContext
  | .unknown => throw .unknownContext

/-- Gives the context back. There is none afterwards, whatever the controller answers. -/
def release (t : Transport σ) : SessionAction σ Unit := do
  let result ← attempt (getLog t .release 0 headerLength)
  setState .notEstablished
  match result with
  | .error e => throw e
  | .ok status => note .debug "released reporting context" [("outcome", status.text)]

/-- Asks the controller whether there is a context. -/
def checkContext (t : Transport σ) : SessionAction σ ContextState := do
  let status ← getLog t .read 0 headerLength
  let state ←
    if status.isSuccess then pure ContextState.established
    else if status.isSequenceError then pure ContextState.notEstablished
    else
      note .warn "context check failed" [("outcome", status.text)]
      pure ContextState.unknown
  setState state
  return state

/-- Establishes a context, reads the log, and releases the context even if the read fails. -/
def retrieve (t : Transport σ) : SessionAction σ Log := do
  establish t
  let log ← attempt (readLog t)
  match ← attempt (release t) with
  | .error e =>
    note .warn "failed to release reporting context" [("error", Reason.logText "error" e.chain)]
  | .ok () => pure ()
  match log with
  | .error e => throw e
  | .ok log => return log

/-- A session for a controller that says that it has a persistent event log. The size that it reports bounds the logs
that the session reads. -/
def probe (t : Transport σ) (config : Config) : Action σ Error Session := fun w =>
  match identifyController t w with
  | (.error e, w) => (.error (.identify e), w)
  | (.ok identity, w) =>
    if identity.hasEventLog then
      let units := identity.eventLogUnits.toNat
      let w := w.note ⟨.debug, sessionTarget, "persistent event log supported",
        [("extended", Display.bool identity.hasExtendedData), ("pels", toString units)]⟩
      match Session.new identity.hasExtendedData config with
      | .error e => (.error e, w)
      | .ok s =>
        let maxLogLength := if units = 0 then s.maxLogLength else min s.maxLogLength (units * sizeUnit)
        (.ok { s with maxLogLength }, w)
    else (.error .unsupported, w)

end StorageCommands.EventLog
