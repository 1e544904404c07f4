import StorageCommands.Proofs.Linux.Identity

/-!
# A replaced device

What a path names may change while no call of a device is under way: it names another device, the old one again, or
none, and the system may refuse to say which or to open it. While a device opens or executes a command, it stays
(`Nodes.Still`).

Then file and identity of a device belong together (`Serves.agrees`), and `execute_safely` says what executing a command
does: the kernel gets the command on the device that the path names at that time, or the device is left as it is.
-/

namespace StorageCommands.Linux

open Nvme

variable {σ φ δ : Type} {sys : System σ φ} {path : String} {options : Options}

/-- No call changes what a path names. -/
structure Nodes.Still (n : Nodes sys δ) : Prop where
  identify : ∀ path s, n.named (sys.identify path s).2 = n.named s
  openFile : ∀ path mode s, n.named (sys.openFile path mode s).2 = n.named s

namespace Nodes.Still

variable {n : Nodes sys δ} {s s' : σ}

theorem of_identify (h : n.Still) {r : Except SystemError Identity} (hlook : sys.identify path s = (r, s')) :
    n.named s' = n.named s := by
  have hnamed := h.identify path s
  rwa [hlook] at hnamed

theorem of_openFile (h : n.Still) {mode : OpenMode} {r : Except SystemError φ}
    (hopened : sys.openFile path mode s = (r, s')) : n.named s' = n.named s := by
  have hnamed := h.openFile path mode s
  rwa [hopened] at hnamed

end Nodes.Still

theorem plugNodes_still : (plugNodes id).Still where
  identify _ _ := rfl
  openFile _ _ _ := rfl

/-- A device that cannot be opened. -/
def lockedPlug : Plug := { secondPlug with openable := false }

/-! ## File and identity -/

/-- In the two calls that file and identity come from, the path names the device that the file is open on. -/
theorem Acquired.named {n : Nodes sys δ} (hstill : n.Still) {mode : OpenMode} {past : List (SystemCall σ φ)}
    {device : Device φ} {s₀ s₁ : σ} (h : Acquired sys path mode past device s₀ s₁) :
    n.named s₀ path = some (n.device device.file) ∧ n.named s₁ path = some (n.device device.file) := by
  cases h with
  | opened hopened hlook hcalls =>
    have hfile := n.openFile_eq hopened
    exact ⟨hfile, by rw [hstill.of_openFile hopened, hfile]⟩
  | reopened hlook hopened hcalls =>
    have hfile := n.openFile_eq hopened
    exact ⟨by rw [← hstill.of_identify hlook, hfile], hfile⟩

namespace Serves

variable {n : Nodes sys δ} {past : List (SystemCall σ φ)} {w : World (Host σ φ)}

/-- **File and identity of a device belong together**. -/
theorem agrees (hstill : n.Still) (hdetect : options.detectReplug = true) (h : Serves sys path options past w) :
    w.device.device.identity = n.identity (n.device w.device.device.file) := by
  obtain ⟨s₀, s₁, hacquired⟩ := h.acquired hdetect
  obtain ⟨h₀, h₁⟩ := hacquired.named hstill
  exact (hacquired.agrees_iff n).2 (h₀.trans h₁.symm)

/-- The file of a device was opened while the path named the device that it is open on. -/
theorem opens (hstill : n.Still) (hdetect : options.detectReplug = true) (h : Serves sys path options past w) :
    ∃ t, .openFile t path options.mode ∈ past ∧ (sys.openFile path options.mode t).1 = .ok w.device.device.file
      ∧ n.named t path = some (n.device w.device.device.file) := by
  obtain ⟨s₀, s₁, hacquired⟩ := h.acquired hdetect
  obtain ⟨h₀, h₁⟩ := hacquired.named hstill
  obtain ⟨t, ht, hcall, hok⟩ := hacquired.opens
  refine ⟨t, hcall, hok, ?_⟩
  rcases ht with rfl | rfl
  · exact h₀
  · exact h₁

end Serves

/-! ## Executing -/

/-- Why a device cannot go on: the system does not say what its path names, or that is another device and cannot be
opened. -/
inductive Blocked (sys : System σ φ) (device : Device φ) (s : σ) : SystemError → Prop
  | unseen {e : SystemError} {s' : σ} (hlook : sys.identify device.path s = (.error e, s')) :
      Blocked sys device s (.onFile .querying device.path e)
  | unopened {identity : Identity} {s' s'' : σ} {e : SystemError}
      (hlook : sys.identify device.path s = (.ok identity, s')) (hne : identity ≠ device.identity)
      (hopened : sys.openFile device.path device.options.mode s' = (.error e, s'')) :
      Blocked sys device s (.onFile .opening device.path e)

namespace Looks

variable {device device' : Device φ} {s s' : σ} {calls : List (SystemCall σ φ)} {r : Except TransportError Unit}

/-- Looking for another device fails exactly if the device cannot go on. -/
theorem blocked_iff (h : Looks sys device s calls r device' s') (cause : SystemError) :
    r = .error (.notReopened device.path cause) ↔ Blocked sys device s cause := by
  constructor
  · intro hr
    cases h with
    | unseen hlook => cases hr; exact .unseen hlook
    | same hlook => cases hr
    | unopened hlook hne hopened => cases hr; exact .unopened hlook hne hopened
    | reopened hlook hne hopened => cases hr
  · intro hblocked
    cases h with
    | unseen hlook =>
      cases hblocked with
      | unseen hlook' => cases hlook.symm.trans hlook'; rfl
      | unopened hlook' hne' hopened' => cases hlook.symm.trans hlook'
    | same hlook =>
      cases hblocked with
      | unseen hlook' => cases hlook.symm.trans hlook'
      | unopened hlook' hne' hopened' => cases hlook.symm.trans hlook'; exact absurd rfl hne'
    | unopened hlook hne hopened =>
      cases hblocked with
      | unseen hlook' => cases hlook.symm.trans hlook'
      | unopened hlook' hne' hopened' =>
        cases hlook.symm.trans hlook'
        cases hopened.symm.trans hopened'
        rfl
    | reopened hlook hne hopened =>
      cases hblocked with
      | unseen hlook' => cases hlook.symm.trans hlook'
      | unopened hlook' hne' hopened' =>
        cases hlook.symm.trans hlook'
        cases hopened.symm.trans hopened'

/-- A device that cannot go on is left as it is. -/
theorem device_eq {e : TransportError} (h : Looks sys device s calls (.error e) device' s') : device' = device := by
  cases h <;> rfl

/-- The kernel gets no command while a device looks for another one. -/
theorem control_not_mem (h : Looks sys device s calls r device' s') {t : σ} {file : φ} {code : UInt32}
    {request : Request} : .control t file code request ∉ calls := by
  cases h <;> simp

/-- A device that goes on is open on the device that its path names, if its file and its identity belong together. -/
theorem named {n : Nodes sys δ} (hstill : n.Still) (h : Looks sys device s calls (.ok ()) device' s')
    (hagrees : device.identity = n.identity (n.device device.file)) :
    n.named s' device.path = n.named s device.path
      ∧ n.named s device.path = some (n.device device'.file) := by
  cases h with
  | same hlook =>
    obtain ⟨x, hx, hidentity⟩ := Option.map_eq_some_iff.1 (n.identify_eq hlook)
    refine ⟨by rw [hstill.of_identify hlook], ?_⟩
    rw [hx, n.unique (hidentity.trans hagrees)]
  | reopened hlook hne hopened =>
    have hfile := n.openFile_eq hopened
    rw [hstill.of_identify hlook] at hfile
    exact ⟨by rw [hstill.of_openFile hopened, hstill.of_identify hlook], hfile⟩

end Looks

/-- A file is opened only if the path names another device than the one that the file is open on. -/
theorem Serves.reopens {n : Nodes sys δ} (hstill : n.Still) {past : List (SystemCall σ φ)} {w : World (Host σ φ)}
    (hdetect : options.detectReplug = true) (h : Serves sys path options past w) (d : CommandDescriptor)
    (hopens : Reopens sys d w) : ∃ x, n.named w.device.system path = some x ∧ x ≠ n.device w.device.device.file
      ∧ n.identity x ≠ w.device.device.identity := by
  have hagrees := h.agrees hstill hdetect
  obtain ⟨rfl, rfl⟩ := h.kept hdetect
  obtain ⟨i, hok, hne⟩ := (reopens_iff sys d w hdetect).1 hopens
  obtain ⟨x, hx, rfl⟩ := Option.map_eq_some_iff.1 (n.identify_eq (Prod.ext hok rfl))
  exact ⟨x, hx, fun hsame => hne (by rw [hsame, hagrees]), hne⟩

/-- What executing a command on a device at a path does, after these calls were made. -/
structure ExecutesSafely (n : Nodes sys δ) (path : String) (mode : OpenMode) (past : List (SystemCall σ φ))
    (d : CommandDescriptor) (w : World (Host σ φ)) : Prop where
  /-- It begins with the question what the path names. -/
  asks : ∃ rest, systemCalls sys d w = .identify w.device.system path :: rest
  /-- The kernel gets the command on a file that was opened while the path named the device that it names now. -/
  reaches : ∀ s file code request, .control s file code request ∈ systemCalls sys d w →
    n.named s path = n.named w.device.system path ∧ n.named s path = some (n.device file)
      ∧ ∃ t, .openFile t path mode ∈ past ++ systemCalls sys d w ∧ (sys.openFile path mode t).1 = .ok file
        ∧ n.named t path = n.named s path
  /-- It is refused for another device exactly if the device cannot go on. -/
  refuses : ∀ cause, (execute sys d w).1.result = .error (.notReopened path cause)
    ↔ Blocked sys w.device.device w.device.system cause
  /-- Nothing is done then, neither to the command nor to the device, and the kernel gets nothing. -/
  keeps : ∀ cause, Blocked sys w.device.device w.device.system cause →
    d.afterAll (execute sys d w).1.effects = d ∧ (execute sys d w).2.device.device = w.device.device
      ∧ ∀ s file code request, .control s file code request ∉ systemCalls sys d w
  /-- A file is opened only if the path names another device than the one that the file is open on. -/
  reopens : Reopens sys d w → ∃ x, n.named w.device.system path = some x ∧ x ≠ n.device w.device.device.file
    ∧ n.identity x ≠ w.device.device.identity

/-- **Executing a command is safe** on a device that looks for another one before each command, if its path names
another device only while no call is under way. -/
theorem execute_safely (n : Nodes sys δ) (hstill : n.Still) {past : List (SystemCall σ φ)} {w : World (Host σ φ)}
    (hdetect : options.detectReplug = true) (h : Serves sys path options past w) (d : CommandDescriptor) :
    ExecutesSafely n path options.mode past d w := by
  have hreopens := h.reopens hstill hdetect d
  have hagrees := h.agrees hstill hdetect
  obtain ⟨rfl, rfl⟩ := h.kept hdetect
  rcases execute_cases sys d w hdetect with ⟨e, hlooks, hanswer⟩ | ⟨calls, s, hlooks, hcalls, hresult⟩
  · refine ⟨hlooks.head, fun _ _ _ _ hmem => absurd hmem hlooks.control_not_mem, fun cause => ?_, fun cause _ => ?_,
      hreopens⟩
    · rw [hanswer, ← hlooks.blocked_iff]
    · rw [hanswer]
      exact ⟨rfl, hlooks.device_eq, fun _ _ _ _ => hlooks.control_not_mem⟩
  · have hgoes : ∀ cause, ¬ Blocked sys w.device.device w.device.system cause := fun cause hblocked => by
      cases (hlooks.blocked_iff cause).2 hblocked
    refine ⟨?_, fun t file code request hmem => ?_, fun cause => ?_,
      fun cause hblocked => absurd hblocked (hgoes cause), hreopens⟩
    · obtain ⟨rest, hrest⟩ := hlooks.head
      rw [hcalls, hrest]
      exact ⟨_, rfl⟩
    · rw [hcalls] at hmem
      have hcontrol := (List.mem_append.1 hmem).resolve_left hlooks.control_not_mem
      cases eq_of_mem_controlCalls hcontrol
      obtain ⟨hsame, hnamed⟩ := hlooks.named hstill hagrees
      -- the file that the command goes to is the one that the device has afterwards
      obtain ⟨t', hcall, hok, ht'⟩ := (h.executed d).opens hstill hdetect
      exact ⟨hsame, hsame.trans hnamed, t', hcall, hok, ht'.trans (hsame.trans hnamed).symm⟩
    · exact ⟨fun hr => absurd hr (hresult _ _), fun hblocked => absurd hblocked (hgoes cause)⟩

/-- A device that is replaced by one that cannot be opened at first: a command is refused, and the next one goes to the
device that the path names. -/
theorem execute_safely_replaced : ∃ past w, Serves (plugs id) "nvme0" {} past w ∧ w.device.system = [lockedPlug]
    ∧ (execute (plugs id) keepAlive w).1.result
      = .error (.notReopened "nvme0" (.onFile .opening "nvme0" (.errno Errno.accessDenied)))
    ∧ (execute (plugs id) keepAlive w).2.device.device = w.device.device
    ∧ let later := { (execute (plugs id) keepAlive w).2 with device.system := [secondPlug] }
      (∃ s file code request, .control s file code request ∈ systemCalls (plugs id) keepAlive later)
        ∧ ∀ s file code request, .control s file code request ∈ systemCalls (plugs id) keepAlive later →
          file = secondPlug.identity := by
  have hopened : Serves (plugs id) "nvme0" {} _ _ := .opened (w := ⟨[firstPlug], []⟩) rfl
  have hlocked := hopened.changed [lockedPlug]
  have hlater := (hlocked.executed keepAlive).changed [secondPlug]
  have hblocked : Blocked (plugs id) ⟨"nvme0", firstPlug.identity, firstPlug.identity, {}⟩ [lockedPlug]
      (.onFile .opening "nvme0" (.errno Errno.accessDenied)) := .unopened rfl (by decide +kernel) rfl
  have hsafe := execute_safely (plugNodes id) plugNodes_still rfl hlocked keepAlive
  have hnext := execute_safely (plugNodes id) plugNodes_still rfl hlater keepAlive
  refine ⟨_, _, hlocked, rfl, (hsafe.refuses _).2 hblocked, (hsafe.keeps _ hblocked).2.1, ?_, ?_⟩
  · exact ⟨_, _, _, _, .tail _ (.tail _ (.head _))⟩
  · intro s file code request h
    obtain ⟨hnow, hnamed, -⟩ := hnext.reaches s file code request h
    exact Option.some_inj.1 (hnamed.symm.trans hnow)

end StorageCommands.Linux
