import StorageCommands.Linux.Device

/-!
# Systems that keep a record

A system can do what another one does and keep more in its states (`System.Extends`), such as a record of the calls that
it got. A device does not see the difference: executing a command has the same result, and leads to the same state but
for what is kept on top (`execute_of_extends`).
-/

namespace StorageCommands.Linux

open Nvme

variable {σ τ φ : Type}

/-- The first system does what the second one does in the states that it stands for. -/
structure System.Extends (sys' : System τ φ) (sys : System σ φ) (state : τ → σ) : Prop where
  openFile : ∀ path mode s,
    sys.openFile path mode (state s) = ((sys'.openFile path mode s).1, state (sys'.openFile path mode s).2)
  identify : ∀ path s, sys.identify path (state s) = ((sys'.identify path s).1, state (sys'.identify path s).2)
  control : ∀ file code request d s, sys.control file code request d (state s) =
    ((sys'.control file code request d s).1, state (sys'.control file code request d s).2)
  placement : sys'.placement = sys.placement

/-- The world that a world stands for. -/
def hostWorld (state : τ → σ) (w : World (Host τ φ)) : World (Host σ φ) :=
  ⟨⟨w.device.device, state w.device.system⟩, w.log⟩

variable {sys' : System τ φ} {sys : System σ φ} {state : τ → σ}

/-- A device looks for another one as in the system that is extended. -/
theorem checkReplug_of_extends (h : sys'.Extends sys state) (w : World (Host τ φ)) :
    checkReplug sys (hostWorld state w) = ((checkReplug sys' w).1, hostWorld state (checkReplug sys' w).2) := by
  unfold checkReplug
  cases hreplug : w.device.device.options.detectReplug with
  | false =>
    simp only [hostWorld, hreplug]
    rfl
  | true =>
    have hlook := h.identify w.device.device.path w.device.system
    rcases hlook' : sys'.identify w.device.device.path w.device.system with ⟨e | identity, s⟩
    · rw [hlook'] at hlook
      simp only [hostWorld, hreplug, hlook, hlook', Bool.not_true, Bool.false_eq_true, if_false]
    · rw [hlook'] at hlook
      simp only [hostWorld, hreplug, hlook, hlook', Bool.not_true, Bool.false_eq_true, if_false]
      by_cases hsame : identity = w.device.device.identity
      · simp only [hsame, if_true]
      · have hopened := h.openFile w.device.device.path w.device.device.options.mode s
        rcases hopened' : sys'.openFile w.device.device.path w.device.device.options.mode s with ⟨e | file, s'⟩
        · rw [hopened'] at hopened
          simp only [hsame, if_false, World.note, hopened]
        · rw [hopened'] at hopened
          simp only [hsame, if_false, World.note, hopened]

/-- A command is handed to the kernel as in the system that is extended. -/
theorem submit_of_extends (h : sys'.Extends sys state) (d : CommandDescriptor) (w : World (Host τ φ)) :
    submit sys d (hostWorld state w) = ((submit sys' d w).1, hostWorld state (submit sys' d w).2) := by
  unfold submit
  by_cases hmetadata : 0x100000000 ≤ d.metadataLength
  · rw [if_pos hmetadata, if_pos hmetadata]
  · by_cases hdata : 0x100000000 ≤ d.dataLength
    · rw [if_neg hmetadata, if_neg hmetadata, if_pos hdata, if_pos hdata]
    · rw [if_neg hmetadata, if_neg hmetadata, if_neg hdata, if_neg hdata, h.placement]
      have hreply := h.control w.device.device.file (requestCode d.opcode) (Request.ofCommand d (sys.placement d)) d
        w.device.system
      rcases hanswered : sys'.control w.device.device.file (requestCode d.opcode)
        (Request.ofCommand d (sys.placement d)) d w.device.system with ⟨reply, s⟩
      rw [hanswered] at hreply
      simp only [hostWorld, hreply, hanswered]
      by_cases hfailed : reply.returned = -1
      · by_cases herrno : reply.errno = Errno.notControllable
        · simp only [hfailed, herrno, if_true, World.note]
        · simp only [hfailed, herrno, if_true, if_false]
      · simp only [hfailed, if_false]

/-- **A command is executed** as in the system that is extended. -/
theorem execute_of_extends (h : sys'.Extends sys state) (d : CommandDescriptor) (w : World (Host τ φ)) :
    execute sys d (hostWorld state w) = ((execute sys' d w).1, hostWorld state (execute sys' d w).2) := by
  unfold execute
  rw [checkReplug_of_extends h]
  rcases checkReplug sys' w with ⟨e | u, w'⟩
  · rfl
  · exact submit_of_extends h d w'

end StorageCommands.Linux
