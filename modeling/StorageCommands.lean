import StorageCommands.Ata.Identity
import StorageCommands.Ata.PassThrough
import StorageCommands.Bytes
import StorageCommands.Catalogue
import StorageCommands.Code
import StorageCommands.Duration
import StorageCommands.Emulated.Controller
import StorageCommands.Emulated.FileTree
import StorageCommands.Emulated.System
import StorageCommands.EventLog.Details
import StorageCommands.EventLog.Error
import StorageCommands.EventLog.Event
import StorageCommands.EventLog.Header
import StorageCommands.EventLog.Session
import StorageCommands.Layout.Error
import StorageCommands.Layout.Spec
import StorageCommands.Layout.Table
import StorageCommands.Layout.Value
import StorageCommands.Linux.Device
import StorageCommands.Linux.Errno
import StorageCommands.Linux.Request
import StorageCommands.Nvme.Admin
import StorageCommands.Nvme.Command
import StorageCommands.Nvme.Identify
import StorageCommands.Nvme.LogPage
import StorageCommands.Nvme.Opcode
import StorageCommands.Nvme.Queue
import StorageCommands.Nvme.Status
import StorageCommands.Nvme.Transport
import StorageCommands.Proofs.Bytes.Bits
import StorageCommands.Proofs.Bytes.Window
import StorageCommands.Proofs.Text.Padded
import StorageCommands.Proofs.Text.Utf8
import StorageCommands.Reason
import StorageCommands.Register
import StorageCommands.Scsi.Operation
import StorageCommands.Scsi.Sense
import StorageCommands.Text.Column
import StorageCommands.Text.Display
import StorageCommands.Text.Hex
import StorageCommands.Text.Number
import StorageCommands.Text.Padded
import StorageCommands.Text.Printable
import StorageCommands.Text.Utf8
import StorageCommands.Trace.Event
import StorageCommands.Trace.Filter
import StorageCommands.Proofs.Layout.Footprint
import StorageCommands.Proofs.Layout.Tables
import StorageCommands.Proofs.Layout.RoundTrip
import StorageCommands.Proofs.Ata.CommandBlocks
import StorageCommands.Proofs.EventLog.Controller
import StorageCommands.Proofs.EventLog.Snapshot
import StorageCommands.Proofs.EventLog.Operations
import StorageCommands.Proofs.EventLog.Scripted
import StorageCommands.Proofs.EventLog.Resume
import StorageCommands.Proofs.EventLog.Partition
import StorageCommands.Proofs.Layout.Stored
import StorageCommands.Proofs.Nvme.Execution
import StorageCommands.Proofs.EventLog.Belief
import StorageCommands.Proofs.EventLog.Packing
import StorageCommands.Proofs.EventLog.KeptRead
import StorageCommands.Proofs.EventLog.HeaderAgreement
import StorageCommands.Proofs.Layout.WriteBack
import StorageCommands.Proofs.Ata.BlockContents
import StorageCommands.Proofs.EventLog.ShortTransfers
import StorageCommands.Proofs.EventLog.ReadResult
import StorageCommands.Proofs.EventLog.LengthLimit
import StorageCommands.Proofs.EventLog.Rejection
import StorageCommands.Proofs.EventLog.Invariant
import StorageCommands.Proofs.Linux.Submission
import StorageCommands.Proofs.EventLog.Retrieval
import StorageCommands.Proofs.Linux.Extension
import StorageCommands.Proofs.Linux.SystemCalls
import StorageCommands.Proofs.Nvme.Completion
import StorageCommands.Proofs.Linux.Identity
import StorageCommands.Proofs.Linux.Replug
import StorageCommands.Proofs.Layout.WrittenBits
import StorageCommands.Proofs.Layout.Checks
import StorageCommands.Proofs.Layout.Reordering
import StorageCommands.Proofs.Layout.InPlace
import StorageCommands.Proofs.Layout.Atomicity
import StorageCommands.Proofs.Layout.Decoding
import StorageCommands.Proofs.Layout.Digits
import StorageCommands.Proofs.Layout.BitRanges
import StorageCommands.Proofs.Layout.Spellings
import StorageCommands.Proofs.Layout.Equality
import StorageCommands.Proofs.Nvme.Registers
import StorageCommands.Proofs.Nvme.QueueEntries
import StorageCommands.Proofs.EventLog.Walk
import StorageCommands.Proofs.EventLog.EventParts
import StorageCommands.Proofs.EventLog.Stepwise
import StorageCommands.Proofs.EventLog.EventData
import StorageCommands.Proofs.Ata.Refusals
import StorageCommands.Proofs.Ata.SectorSizes
import StorageCommands.Proofs.Ata.DeviceStrings
import StorageCommands.Proofs.Scsi.DeclaredLength
import StorageCommands.Proofs.Scsi.SenseRoundTrip
import StorageCommands.Proofs.EventLog.HeaderFields
import StorageCommands.Proofs.Nvme.AdminReports
import StorageCommands.Proofs.Layout.History
import StorageCommands.Proofs.Nvme.Packing
import StorageCommands.Proofs.Nvme.TransferWindow
import StorageCommands.Proofs.Linux.Contract
import StorageCommands.Proofs.Nvme.Issuing
import StorageCommands.Proofs.EventLog.InternalErrors
import StorageCommands.Proofs.EventLog.SessionSteps
