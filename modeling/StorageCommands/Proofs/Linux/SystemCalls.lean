import StorageCommands.Proofs.Linux.Extension
import StorageCommands.Proofs.Linux.Submission

/-!
# The system calls of a device

`System.traced` writes down all calls that are made, each with the state in which it was made. The calls of opening a
device are `openingCalls` (`openDevice_eq_ok`), those of executing a command are `systemCalls`.

A device that looks for another device before each command comes to one of four things (`Looks`), after which the
command is handed to the kernel or not (`execute_cases`).
-/

namespace StorageCommands.Linux

open Nvme

variable {σ φ : Type}

/-! ## The calls -/

/-- A system call, and the state of the system in which it was made. -/
inductive SystemCall (σ φ : Type)
  | openFile (s : σ) (path : String) (mode : OpenMode)
  | identify (s : σ) (path : String)
  | control (s : σ) (file : φ) (code : UInt32) (request : Request)

/-- The state of a system, and the calls that were made, the earliest first. -/
structure Traced (σ φ : Type) where
  state : σ
  calls : List (SystemCall σ φ)

/-- The system that writes down the calls. -/
def System.traced (sys : System σ φ) : System (Traced σ φ) φ where
  openFile path mode s :=
    let (r, state) := sys.openFile path mode s.state
    (r, ⟨state, s.calls ++ [.openFile s.state path mode]⟩)
  identify path s :=
    let (r, state) := sys.identify path s.state
    (r, ⟨state, s.calls ++ [.identify s.state path]⟩)
  control file code request d s :=
    let (reply, state) := sys.control file code request d s.state
    (reply, ⟨state, s.calls ++ [.control s.state file code request]⟩)
  placement := sys.placement

/-- A world with an empty trace. -/
def traced (w : World (Host σ φ)) : World (Host (Traced σ φ) φ) := ⟨⟨w.device.device, w.device.system, []⟩, w.log⟩

/-- The calls that opening a device makes. -/
def openingCalls (sys : System σ φ) (path : String) (options : Options) (w : World σ) : List (SystemCall σ φ) :=
  ((openDevice sys.traced path options).run.run ⟨⟨w.device, []⟩, w.log⟩).2.device.calls

/-- The calls that executing a command makes. -/
def systemCalls (sys : System σ φ) (d : CommandDescriptor) (w : World (Host σ φ)) : List (SystemCall σ φ) :=
  (execute sys.traced d (traced w)).2.device.system.calls

variable (sys : System σ φ)

theorem traced_extends : sys.traced.Extends sys Traced.state where
  openFile _ _ _ := rfl
  identify _ _ := rfl
  control _ _ _ _ _ := rfl
  placement := rfl

/-! ## Opening -/

/-- **Opening a device** opens the file, and then asks which file the path names. -/
theorem openDevice_eq_ok {path : String} {options : Options} {w w' : World σ} {device : Device φ}
    (h : (openDevice sys path options).run.run w = (.ok device, w')) :
    device.path = path ∧ device.options = options
      ∧ ∃ s, sys.openFile path options.mode w.device = (.ok device.file, s)
        ∧ sys.identify path s = (.ok device.identity, w'.device)
        ∧ openingCalls sys path options w = [.openFile w.device path options.mode, .identify s path] := by
  change openDevice sys path options w = (.ok device, w') at h
  change _ ∧ _ ∧ ∃ s, _ ∧ _ ∧ (openDevice sys.traced path options ⟨⟨w.device, []⟩, w.log⟩).2.device.calls = _
  unfold openDevice at h ⊢
  rcases hopened : sys.openFile path options.mode w.device with ⟨e | file, s⟩
  · simp only [hopened] at h
    cases h
  · rcases hlook : sys.identify path s with ⟨e | identity, s'⟩
    · simp only [hopened, hlook] at h
      cases h
    · simp only [hopened, hlook] at h
      cases h
      simp only [System.traced, hopened, hlook]
      exact ⟨trivial, trivial, s, rfl, hlook, rfl⟩

/-! ## Looking for another device -/

/-- What looking for another device comes to: the calls, the result, and the device and the system afterwards. -/
inductive Looks (sys : System σ φ) (device : Device φ) (s : σ) :
    List (SystemCall σ φ) → Except TransportError Unit → Device φ → σ → Prop
  /-- The system does not say what the path names. -/
  | unseen {e : SystemError} {s' : σ} (hlook : sys.identify device.path s = (.error e, s')) :
      Looks sys device s [.identify s device.path]
        (.error (.notReopened device.path (.onFile .querying device.path e))) device s'
  /-- The path names the same device. -/
  | same {s' : σ} (hlook : sys.identify device.path s = (.ok device.identity, s')) :
      Looks sys device s [.identify s device.path] (.ok ()) device s'
  /-- The path names another device, which cannot be opened. -/
  | unopened {identity : Identity} {s' s'' : σ} {e : SystemError}
      (hlook : sys.identify device.path s = (.ok identity, s')) (hne : identity ≠ device.identity)
      (hopened : sys.openFile device.path device.options.mode s' = (.error e, s'')) :
      Looks sys device s [.identify s device.path, .openFile s' device.path device.options.mode]
        (.error (.notReopened device.path (.onFile .opening device.path e))) device s''
  /-- The path names another device, which is open now. -/
  | reopened {identity : Identity} {s' s'' : σ} {file : φ}
      (hlook : sys.identify device.path s = (.ok identity, s')) (hne : identity ≠ device.identity)
      (hopened : sys.openFile device.path device.options.mode s' = (.ok file, s'')) :
      Looks sys device s [.identify s device.path, .openFile s' device.path device.options.mode] (.ok ())
        { device with file, identity } s''

/-- A device looks for another one as said. -/
theorem checkReplug_looks (w : World (Host (Traced σ φ) φ)) (hdetect : w.device.device.options.detectReplug = true) :
    ∃ calls, (checkReplug sys.traced w).2.device.system.calls = w.device.system.calls ++ calls
      ∧ Looks sys w.device.device w.device.system.state calls (checkReplug sys.traced w).1
        (checkReplug sys.traced w).2.device.device (checkReplug sys.traced w).2.device.system.state := by
  unfold checkReplug
  rcases hlook : sys.identify w.device.device.path w.device.system.state with ⟨e | identity, s⟩
  · simp only [System.traced, hdetect, hlook, Bool.not_true, Bool.false_eq_true, if_false]
    exact ⟨_, rfl, .unseen hlook⟩
  · simp only [System.traced, hdetect, hlook, Bool.not_true, Bool.false_eq_true, if_false]
    by_cases hsame : identity = w.device.device.identity
    · simp only [hsame, if_true]
      exact ⟨_, rfl, .same (hsame ▸ hlook)⟩
    · rcases hopened : sys.openFile w.device.device.path w.device.device.options.mode s with ⟨e | file, s'⟩
      · simp only [hsame, if_false, World.note, hopened]
        exact ⟨_, List.append_assoc .., .unopened hlook hsame hopened⟩
      · simp only [hsame, if_false, World.note, hopened]
        exact ⟨_, List.append_assoc .., .reopened hlook hsame hopened⟩

/-! ## Executing -/

/-- The call that hands a command to the kernel, if its buffers can be described. -/
def controlCalls (sys : System σ φ) (d : CommandDescriptor) (s : σ) (file : φ) : List (SystemCall σ φ) :=
  if Describable d then [.control s file (requestCode d.opcode) (Request.ofCommand d (sys.placement d))] else []

theorem eq_of_mem_controlCalls {sys : System σ φ} {d : CommandDescriptor} {s : σ} {file : φ} {c : SystemCall σ φ}
    (h : c ∈ controlCalls sys d s file) :
    c = .control s file (requestCode d.opcode) (Request.ofCommand d (sys.placement d)) := by
  unfold controlCalls at h
  split at h
  · exact List.mem_singleton.1 h
  · cases h

/-- Handing a command to the kernel is at most one call, which keeps the device. -/
theorem submit_traced (d : CommandDescriptor) (w : World (Host (Traced σ φ) φ)) :
    (submit sys.traced d w).2.device.system.calls
        = w.device.system.calls ++ controlCalls sys d w.device.system.state w.device.device.file
      ∧ (submit sys.traced d w).2.device.device = w.device.device := by
  rw [submit_host, controlCalls]
  split
  · exact ⟨rfl, rfl⟩
  · exact ⟨(List.append_nil _).symm, rfl⟩

/-- A command that is handed to the kernel does not fail for another device. -/
theorem submit_ne_notReopened (d : CommandDescriptor) (w : World (Host σ φ)) (path : String) (e : SystemError) :
    (submit sys d w).1.result ≠ .error (.notReopened path e) := by
  unfold submit
  by_cases hmetadata : 0x100000000 ≤ d.metadataLength
  · rw [if_pos hmetadata]
    exact fun h => by cases h
  · by_cases hdata : 0x100000000 ≤ d.dataLength
    · rw [if_neg hmetadata, if_pos hdata]
      exact fun h => by cases h
    · rw [if_neg hmetadata, if_neg hdata]
      by_cases hfailed : (sys.control w.device.device.file (requestCode d.opcode)
          (Request.ofCommand d (sys.placement d)) d w.device.system).1.returned = -1
      · simp only [hfailed, if_true]
        exact fun h => by cases h
      · simp only [hfailed, if_false]
        intro h
        split at h
        · cases h
        · cases h

/-- **Executing a command** on a device that looks for another one: it is refused, and the kernel gets nothing, or it is
handed to the kernel on the file that is open by then. -/
theorem execute_cases (d : CommandDescriptor) (w : World (Host σ φ))
    (hdetect : w.device.device.options.detectReplug = true) :
    (∃ e, Looks sys w.device.device w.device.system (systemCalls sys d w) (.error e) (execute sys d w).2.device.device
          (execute sys d w).2.device.system
        ∧ (execute sys d w).1 = { result := .error e })
      ∨ ∃ calls s, Looks sys w.device.device w.device.system calls (.ok ()) (execute sys d w).2.device.device s
        ∧ systemCalls sys d w = calls ++ controlCalls sys d s (execute sys d w).2.device.device.file
        ∧ ∀ path e, (execute sys d w).1.result ≠ .error (.notReopened path e) := by
  have hplain : execute sys d w = _ := execute_of_extends (traced_extends sys) d (traced w)
  obtain ⟨calls, hcalls, hlooks⟩ := checkReplug_looks sys (traced w) hdetect
  rw [hplain, systemCalls]
  unfold execute
  generalize checkReplug sys.traced (traced w) = checked at hcalls hlooks ⊢
  obtain ⟨r, w'⟩ := checked
  cases r with
  | error e =>
    have hmade : w'.device.system.calls = calls := hcalls
    exact Or.inl ⟨e, hmade ▸ hlooks, rfl⟩
  | ok u =>
    have hmade : w'.device.system.calls = calls := hcalls
    obtain ⟨hcontrol, hkept⟩ := submit_traced sys d w'
    refine Or.inr ⟨calls, w'.device.system.state, ?_, ?_, submit_ne_notReopened sys.traced d w'⟩
    · exact hkept.symm ▸ hlooks
    · rw [hmade, ← hkept] at hcontrol
      exact hcontrol

end StorageCommands.Linux
