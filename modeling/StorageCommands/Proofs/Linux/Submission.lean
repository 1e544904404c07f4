import Mathlib.Tactic.Common
import StorageCommands.Emulated.System
import StorageCommands.Proofs.Linux.Extension
import StorageCommands.Proofs.Layout.Tables
import StorageCommands.Proofs.Nvme.Delivery

/-!
# Two renderings of a command

A command has two renderings: the entry of 64 bytes in a submission queue (`CommandDescriptor.submissionEntry`), and the
request of 72 bytes that a device file hands to the kernel (`Request.ofCommand`). Their pointers are computed in
different ways: an empty buffer has no address in the entry, but the request points at every buffer that there is.

- The requests of a command are recorded while it is executed (`System.watched`). The record changes nothing
  (`execute_watched`), and there is at most one request (`submissions_eq`).
- `request_agrees`: the request agrees with the entry in every field and in the bytes of every field, but for the
  metadata pointer of an empty metadata buffer. A data buffer is never empty (`size_ne_zero_of_build`).
- `empty_metadata_disagrees`: an empty metadata buffer.
-/

namespace StorageCommands.Linux

open Nvme

variable {σ φ : Type}

/-! ## The requests of a command -/

/-- A request that was handed to the kernel. -/
structure Submission (φ : Type) where
  file : φ
  code : UInt32
  request : Request

/-- The state of a system, and the requests that its kernel got, the earliest first. -/
structure Watched (σ φ : Type) where
  state : σ
  submissions : List (Submission φ)

/-- The system that writes down the requests. -/
def System.watched (sys : System σ φ) : System (Watched σ φ) φ where
  openFile path mode s := let (r, state) := sys.openFile path mode s.state; (r, { s with state })
  identify path s := let (r, state) := sys.identify path s.state; (r, { s with state })
  control file code request d s :=
    let (reply, state) := sys.control file code request d s.state
    (reply, ⟨state, s.submissions ++ [⟨file, code, request⟩]⟩)
  placement := sys.placement

/-- A world with an empty record. -/
def watched (w : World (Host σ φ)) : World (Host (Watched σ φ) φ) := ⟨⟨w.device.device, w.device.system, []⟩, w.log⟩

/-- A world without its record. -/
def unwatched (w : World (Host (Watched σ φ) φ)) : World (Host σ φ) := ⟨⟨w.device.device, w.device.system.state⟩, w.log⟩

/-- The requests on the record. -/
def recorded (w : World (Host (Watched σ φ) φ)) : List (Submission φ) := w.device.system.submissions

/-- The requests that the kernel gets when a command is executed. -/
def submissions (sys : System σ φ) (d : CommandDescriptor) (w : World (Host σ φ)) : List (Submission φ) :=
  recorded (execute sys.watched d (watched w)).2

variable (sys : System σ φ)

theorem watched_extends : sys.watched.Extends sys Watched.state where
  openFile _ _ _ := rfl
  identify _ _ := rfl
  control _ _ _ _ _ := rfl
  placement := rfl

/-- Looking for another device makes no request. -/
theorem recorded_checkReplug (w : World (Host (Watched σ φ) φ)) :
    recorded (checkReplug sys.watched w).2 = recorded w := by
  unfold checkReplug
  cases hreplug : w.device.device.options.detectReplug with
  | false =>
    simp only [hreplug]
    rfl
  | true =>
    rcases hfile : sys.identify w.device.device.path w.device.system.state with ⟨e | identity, state⟩
    · simp only [hreplug, System.watched, hfile, Bool.not_true, Bool.false_eq_true, if_false]
      rfl
    · simp only [hreplug, System.watched, hfile, Bool.not_true, Bool.false_eq_true, if_false]
      by_cases hsame : identity = w.device.device.identity
      · simp only [hsame, if_true]
        rfl
      · rcases hopened : sys.openFile w.device.device.path w.device.device.options.mode state with ⟨e | file, state'⟩
        · simp only [hsame, if_false, World.note, hopened]
          rfl
        · simp only [hsame, if_false, World.note, hopened]
          rfl

/-- The lengths of a command's buffers fit the request. -/
def Describable (d : CommandDescriptor) : Prop := d.metadataLength < 2 ^ 32 ∧ d.dataLength < 2 ^ 32

instance (d : CommandDescriptor) : Decidable (Describable d) := inferInstanceAs (Decidable (_ ∧ _))

/-- A command whose buffers can be described is handed to the kernel once, another one never. The device stays. -/
theorem submit_host (d : CommandDescriptor) (w : World (Host σ φ)) : (submit sys d w).2.device =
    if Describable d then
      ⟨w.device.device, (sys.control w.device.device.file (requestCode d.opcode)
        (Request.ofCommand d (sys.placement d)) d w.device.system).2⟩
    else w.device := by
  unfold submit
  by_cases hmetadata : 0x100000000 ≤ d.metadataLength
  · have hnot : ¬ Describable d := fun h => absurd h.1 (Nat.not_lt.2 hmetadata)
    rw [if_pos hmetadata, if_neg hnot]
  · by_cases hdata : 0x100000000 ≤ d.dataLength
    · have hnot : ¬ Describable d := fun h => absurd h.2 (Nat.not_lt.2 hdata)
      rw [if_neg hmetadata, if_pos hdata, if_neg hnot]
    · have hfits : Describable d := ⟨Nat.lt_of_not_le hmetadata, Nat.lt_of_not_le hdata⟩
      rw [if_neg hmetadata, if_neg hdata, if_pos hfits]
      rcases hreply : sys.control w.device.device.file (requestCode d.opcode) (Request.ofCommand d (sys.placement d)) d
        w.device.system with ⟨reply, state⟩
      simp only [hreply]
      by_cases hfailed : reply.returned = -1
      · by_cases herrno : reply.errno = Errno.notControllable
        · simp only [hfailed, herrno, if_true, World.note]
        · simp only [hfailed, herrno, if_true, if_false]
      · simp only [hfailed, if_false]

/-- The request of a command is recorded. -/
theorem recorded_submit (d : CommandDescriptor) (w : World (Host (Watched σ φ) φ)) :
    recorded (submit sys.watched d w).2 = recorded w ++ if Describable d
      then [⟨w.device.device.file, requestCode d.opcode, Request.ofCommand d (sys.placement d)⟩] else [] := by
  rw [recorded, submit_host]
  split
  · rfl
  · exact (List.append_nil _).symm

/-- **The record changes nothing**: a command is executed as without it. -/
theorem execute_watched (d : CommandDescriptor) (w : World (Host (Watched σ φ) φ)) :
    execute sys d (unwatched w) = ((execute sys.watched d w).1, unwatched (execute sys.watched d w).2) :=
  execute_of_extends (watched_extends sys) d w

/-- **The requests of a command**: one, if the device is there and the buffers can be described. -/
theorem submissions_eq (d : CommandDescriptor) (w : World (Host σ φ)) : submissions sys d w =
    match checkReplug sys w with
    | (.error _, _) => []
    | (.ok (), w') => if Describable d
        then [⟨w'.device.device.file, requestCode d.opcode, Request.ofCommand d (sys.placement d)⟩] else [] := by
  have hreplug : checkReplug sys w = _ := checkReplug_of_extends (watched_extends sys) (watched w)
  have hrecord := recorded_checkReplug sys (watched w)
  rw [submissions, execute, hreplug]
  generalize checkReplug sys.watched (watched w) = checked at hrecord
  obtain ⟨r, w'⟩ := checked
  cases r with
  | error e => exact hrecord
  | ok u =>
    have hsubmitted := recorded_submit sys d w'
    dsimp only at hrecord ⊢
    rw [hsubmitted, hrecord]
    rfl

/-! ## Agreement -/

theorem ne_zero_of_checkAlignment {len : Nat} {u : Unit} (h : CommandBuilder.checkAlignment len = .ok u) : len ≠ 0 := by
  unfold CommandBuilder.checkAlignment at h
  split at h
  · cases h
  · rename_i haligned
    exact fun hzero => haligned (Or.inl hzero)

/-- The transfer of a command that was built is not empty and fits its buffer. -/
theorem transfer_of_build {b : CommandBuilder} {d : CommandDescriptor} (h : b.build = .ok d) :
    ∀ t ∈ d.transfer, t.len ≠ 0 ∧ t.len ≤ t.region.buffer.size := by
  obtain ⟨transfer, htransfer, hd⟩ := Layout.bind_eq_ok.1 h
  cases hd
  rintro t rfl
  unfold CommandBuilder.transfer at htransfer
  split at htransfer
  · cases htransfer
  · obtain ⟨u, hcheck, ht⟩ := Layout.bind_eq_ok.1 htransfer
    cases ht
    exact ⟨ne_zero_of_checkAlignment hcheck, Nat.le_of_eq (Bytes.length_zeros _).symm⟩
  · obtain ⟨u, hcheck, ht⟩ := Layout.bind_eq_ok.1 htransfer
    split at ht
    · cases ht
    · rename_i hfits
      cases ht
      exact ⟨ne_zero_of_checkAlignment hcheck, Nat.le_of_not_lt hfits⟩

/-- The data buffer of a command is not empty, whatever was done to the command. -/
theorem size_ne_zero_of_build {b : CommandBuilder} {d : CommandDescriptor} (h : b.build = .ok d)
    (effects : List Effect) : ∀ t ∈ (d.afterAll effects).transfer, t.region.buffer.size ≠ 0 := by
  intro t' ht'
  cases ht : d.transfer with
  | none => rw [CommandDescriptor.afterAll_transfer_none ht] at ht'; cases ht'
  | some t =>
    obtain ⟨kept, hkept, k⟩ := CommandDescriptor.afterAll_transfer ht effects
    rw [hkept] at ht'
    cases ht'
    have hbuilt := transfer_of_build h t ht
    have hsize := k.size
    omega

/-- An opcode is a dword of its own in the entry. -/
theorem dwordBytes_toUInt32 (code : UInt8) : dwordBytes code.toUInt32 = [code, 0] ++ wordBytes 0 := by
  have hzero : code.toNat / 256 = 0 := Nat.div_eq_of_lt code.toNat_lt
  rw [dwordBytes, UInt8.toNat_toUInt32]
  simp only [Bytes.ofLittleEndian, hzero, UInt8.ofNat_toNat, Nat.zero_div]
  rfl

theorem timeoutField_toNat (timeout : Option Duration) :
    (Request.timeoutField timeout).toNat = timeout.elim 0 fun t => min (t.nanoseconds / 1000000) (2 ^ 32 - 1) := by
  cases timeout with
  | none => rfl
  | some t =>
    rw [Request.timeoutField, Option.elim_some, Option.elim_some, UInt32.toNat_ofNat', Duration.milliseconds]
    omega

/-- The request points at every metadata buffer, the entry only at one that is not empty. -/
theorem metadata_agrees_iff (d : CommandDescriptor) (place : Placement) :
    (Request.ofCommand d place).metadata = (d.submissionEntry place).metadataPointer
      ↔ d.metadata ≠ some ⟨[]⟩ ∨ place.metadata = 0 := by
  rw [Request.ofCommand, CommandDescriptor.submissionEntry]
  rcases d.metadata with _ | ⟨_ | ⟨x, bytes⟩⟩
  · simp
  · simp [DataBuffer.address, DataBuffer.size]
  · simp [DataBuffer.address, DataBuffer.size]

/-- The request and the entry point at the same data. -/
theorem data_agrees {b : CommandBuilder} {d : CommandDescriptor} (h : b.build = .ok d) (effects : List Effect)
    (place : Placement) :
    (Request.ofCommand (d.afterAll effects) place).data = ((d.afterAll effects).submissionEntry place).dataPointer := by
  have hsize := size_ne_zero_of_build h effects
  rw [Request.ofCommand, CommandDescriptor.submissionEntry]
  cases ht : (d.afterAll effects).transfer with
  | none => rfl
  | some t => exact (if_neg (hsize t ht)).symm

/-- The request says what the entry says, but for the metadata pointer. -/
structure Request.Renders (r : Request) (e : SubmissionEntry) : Prop where
  opcode : e.cdw0 = r.opcode.toUInt32
  nsid : r.nsid = e.nsid
  cdw2 : r.cdw2 = e.cdw2
  cdw3 : r.cdw3 = e.cdw3
  data : r.data = e.dataPointer
  words : r.words = e.words

/-- The request of a command renders its entry. -/
theorem ofCommand_renders {b : CommandBuilder} {d : CommandDescriptor} (h : b.build = .ok d) (effects : List Effect)
    (place : Placement) :
    (Request.ofCommand (d.afterAll effects) place).Renders ((d.afterAll effects).submissionEntry place) where
  opcode := rfl
  nsid := rfl
  cdw2 := rfl
  cdw3 := rfl
  data := data_agrees h effects place
  words := rfl

/-- Where the bytes of an entry lie. -/
theorem entry_slices (e : SubmissionEntry) :
    e.toBytes.slice 0 16 = dwordBytes e.cdw0 ++ dwordBytes e.nsid ++ dwordBytes e.cdw2 ++ dwordBytes e.cdw3
      ∧ e.toBytes.slice 24 8 = qwordBytes e.dataPointer ∧ e.toBytes.slice 40 24 = e.words.toList.flatMap dwordBytes :=
  ⟨rfl, rfl, rfl⟩

/-- Where the bytes of a request lie. -/
theorem request_slices (r : Request) :
    r.toBytes.slice 0 16
        = [r.opcode, r.flags] ++ wordBytes r.reserved ++ dwordBytes r.nsid ++ dwordBytes r.cdw2 ++ dwordBytes r.cdw3
      ∧ r.toBytes.slice 24 8 = qwordBytes r.data ∧ r.toBytes.slice 40 24 = r.words.toList.flatMap dwordBytes :=
  ⟨rfl, rfl, rfl⟩

/-- What is rendered has the same bytes at the same places: in front of the metadata pointer, behind it, and in the six
dwords. -/
theorem Request.Renders.slices {r : Request} {e : SubmissionEntry} (h : r.Renders e) (hflags : r.flags = 0)
    (hreserved : r.reserved = 0) : r.toBytes.slice 0 16 = e.toBytes.slice 0 16
      ∧ r.toBytes.slice 24 8 = e.toBytes.slice 24 8 ∧ r.toBytes.slice 40 24 = e.toBytes.slice 40 24 := by
  obtain ⟨hfront, hdata, hwords⟩ := request_slices r
  obtain ⟨hfront', hdata', hwords'⟩ := entry_slices e
  refine ⟨?_, ?_, ?_⟩
  · rw [hfront, hfront', h.opcode, dwordBytes_toUInt32, hflags, hreserved, h.nsid, h.cdw2, h.cdw3]
  · rw [hdata, hdata', h.data]
  · rw [hwords, hwords', h.words]

/-- The request agrees with a command: it renders the command's entry, where the two have a field or bytes in common,
and its other fields are those of the command. -/
structure Request.Agrees (r : Request) (d : CommandDescriptor) (place : Placement) : Prop where
  entry : r.Renders (d.submissionEntry place)
  slices : r.toBytes.slice 0 16 = (d.submissionEntry place).toBytes.slice 0 16
    ∧ r.toBytes.slice 24 8 = (d.submissionEntry place).toBytes.slice 24 8
    ∧ r.toBytes.slice 40 24 = (d.submissionEntry place).toBytes.slice 40 24
  metadata : r.metadata = (d.submissionEntry place).metadataPointer ↔ d.metadata ≠ some ⟨[]⟩ ∨ place.metadata = 0
  metadataLength : r.metadataLength.toNat = d.metadataLength
  dataLength : r.dataLength.toNat = d.dataLength
  flags : r.flags = 0
  reserved : r.reserved = 0
  timeout : r.timeoutMilliseconds.toNat = d.timeout.elim 0 fun t => min (t.nanoseconds / 1000000) (2 ^ 32 - 1)

/-- A command whose buffers can be described has a request that agrees with it. -/
theorem ofCommand_agrees {b : CommandBuilder} {d : CommandDescriptor} (h : b.build = .ok d) (effects : List Effect)
    (place : Placement) (hfits : Describable (d.afterAll effects)) :
    (Request.ofCommand (d.afterAll effects) place).Agrees (d.afterAll effects) place where
  entry := ofCommand_renders h effects place
  slices := (ofCommand_renders h effects place).slices rfl rfl
  metadata := metadata_agrees_iff _ place
  metadataLength := UInt32.toNat_ofNat_of_lt' hfits.1
  dataLength := UInt32.toNat_ofNat_of_lt' hfits.2
  flags := rfl
  reserved := rfl
  timeout := timeoutField_toNat _

/-- **The request agrees with the entry**: a command that was built, also one that transports have had before, is handed
to the kernel once if the device is there and the buffers can be described, and otherwise never. Its request agrees with
its submission queue entry, but for the metadata pointer of an empty metadata buffer. -/
theorem request_agrees (sys : System σ φ) {b : CommandBuilder} {d : CommandDescriptor} (hb : b.build = .ok d)
    (effects : List Effect) (w : World (Host σ φ)) :
    let command := d.afterAll effects
    (submissions sys command w).length = (if (checkReplug sys w).1.isOk = true ∧ Describable command then 1 else 0)
      ∧ ∀ x ∈ submissions sys command w, x.file = (checkReplug sys w).2.device.device.file
          ∧ x.code = requestCode command.opcode ∧ x.request.Agrees command (sys.placement command) := by
  intro command
  rw [submissions_eq]
  rcases checkReplug sys w with ⟨e | u, w'⟩
  · exact ⟨rfl, fun x hx => absurd hx List.not_mem_nil⟩
  · by_cases hfits : Describable command
    · simp only [if_pos hfits]
      refine ⟨(if_pos ⟨rfl, hfits⟩).symm, fun x hx => ?_⟩
      cases List.mem_singleton.1 hx
      exact ⟨rfl, rfl, ofCommand_agrees hb effects _ hfits⟩
    · simp only [if_neg hfits]
      exact ⟨(if_neg fun h => hfits h.2).symm, fun x hx => absurd hx List.not_mem_nil⟩

/-- A read of 8 bytes with 4 bytes of metadata and a timeout of 2.5 milliseconds. -/
def readWithMetadata : CommandBuilder where
  opcode := .io 2
  nsid := 1
  words := { cdw10 := 5 }
  transferLength := some 8
  metadata := some ⟨[1, 2, 3, 4]⟩
  timeout := some ⟨2500000⟩

/-- A log page request with an empty metadata buffer. -/
def withEmptyMetadata : CommandBuilder where
  opcode := .admin 2
  metadata := some ⟨[]⟩

/-- A system in memory whose buffers begin at two pages. An empty buffer has no storage, and its bytes are said to begin
at the second one. -/
def twoPages : System Emulated.Kernel Emulated.OpenFile := Emulated.Kernel.system ⟨0x10000, 0x1000⟩

/-- An open device that is not looked for again. -/
def openedDevice : World (Host Emulated.Kernel Emulated.OpenFile) where
  device := ⟨⟨"nvme0", ⟨2, ⟨true, true⟩⟩, ⟨1, 2, 0⟩, { detectReplug := false }⟩, {}⟩

/-- The computed fields in the request of a command that is tried once more. -/
theorem request_agrees_retried : ∃ d, readWithMetadata.build = .ok d
    ∧ (submissions twoPages (d.afterAll [.writeData [9]]) openedDevice).length = 1
    ∧ ∀ x ∈ submissions twoPages (d.afterAll [.writeData [9]]) openedDevice,
        x.request.data = 0x10000 ∧ x.request.metadata = 0x1000 ∧ x.request.dataLength.toNat = 8
          ∧ x.request.metadataLength.toNat = 4 ∧ x.request.timeoutMilliseconds.toNat = 2 := by
  refine ⟨_, rfl, ?_⟩
  obtain ⟨hlength, hagrees⟩ :=
    request_agrees twoPages (b := readWithMetadata) rfl [.writeData [9]] openedDevice
  refine ⟨hlength.trans (by decide +kernel), fun x hx => ?_⟩
  obtain ⟨-, -, h⟩ := hagrees x hx
  exact ⟨h.entry.data.trans (by decide +kernel), (h.metadata.2 (by decide +kernel)).trans (by decide +kernel),
    h.dataLength.trans (by decide +kernel), h.metadataLength.trans (by decide +kernel),
    h.timeout.trans (by decide +kernel)⟩

/-- **An empty metadata buffer has an address in the request**, and none in the entry. -/
theorem empty_metadata_disagrees : ∃ d, withEmptyMetadata.build = .ok d
    ∧ (submissions twoPages d openedDevice).map (·.request.metadata) = [0x1000]
    ∧ (d.submissionEntry (twoPages.placement d)).metadataPointer = 0 := by
  refine ⟨_, rfl, ?_, ?_⟩
  · decide +kernel
  · rfl

end StorageCommands.Linux
