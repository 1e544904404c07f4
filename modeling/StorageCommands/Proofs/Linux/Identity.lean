import StorageCommands.Proofs.Linux.SystemCalls

/-!
# The recorded identity

An open device has a file, and the identity of what its path named. The two come from two system calls: opening a device
opens the file first and asks for the identity then, and opening another one at the same path goes the other way round
(`Acquired`). What the path names may change between any two calls.

- `Nodes` says which device a path names in a state, and on which device a file is open. Identities tell devices apart.
- `Serves` is all that can become of a device that was opened.
- `recorded_identity`: file and identity belong to the same device exactly if the path named the same one in both calls.
- `other_identity_recorded`: a device that is replaced between the two calls of opening it is never missed.
-/

namespace StorageCommands.Linux

open Nvme

variable {σ φ δ : Type} {sys : System σ φ} {path : String} {options : Options}

/-! ## Devices and paths -/

/-- The devices of a system. A call that succeeds tells of the device that its path names when it is made. -/
structure Nodes (sys : System σ φ) (δ : Type) where
  /-- The device that a path names. -/
  named : σ → String → Option δ
  /-- The device that a file is open on. -/
  device : φ → δ
  identity : δ → Identity
  /-- Identities tell devices apart. -/
  unique : Function.Injective identity
  identify_eq : ∀ {path : String} {s s' : σ} {i : Identity}, sys.identify path s = (.ok i, s') →
    (named s path).map identity = some i
  openFile_eq : ∀ {path : String} {mode : OpenMode} {s s' : σ} {file : φ},
    sys.openFile path mode s = (.ok file, s') → named s path = some (device file)

/-! ## Runs -/

/-- What can become of a device at a path, and the calls that were made: it is opened, it executes commands, and the
system changes in between. -/
inductive Serves (sys : System σ φ) (path : String) (options : Options) :
    List (SystemCall σ φ) → World (Host σ φ) → Prop
  | opened {w w' : World σ} {device : Device φ} (h : (openDevice sys path options).run.run w = (.ok device, w')) :
      Serves sys path options (openingCalls sys path options w) ⟨⟨device, w'.device⟩, w'.log⟩
  | executed {past : List (SystemCall σ φ)} {w : World (Host σ φ)} (h : Serves sys path options past w)
      (d : CommandDescriptor) : Serves sys path options (past ++ systemCalls sys d w) (execute sys d w).2
  | changed {past : List (SystemCall σ φ)} {w : World (Host σ φ)} (h : Serves sys path options past w) (s : σ) :
      Serves sys path options past { w with device.system := s }

/-- How a device came by its file and its identity: by two calls in a row, in these two states. -/
inductive Acquired (sys : System σ φ) (path : String) (mode : OpenMode) (past : List (SystemCall σ φ))
    (device : Device φ) : σ → σ → Prop
  | opened {s₀ s₁ s₂ : σ} (hopened : sys.openFile path mode s₀ = (.ok device.file, s₁))
      (hlook : sys.identify path s₁ = (.ok device.identity, s₂))
      (hcalls : [.openFile s₀ path mode, .identify s₁ path] <:+: past) : Acquired sys path mode past device s₀ s₁
  | reopened {s₀ s₁ s₂ : σ} (hlook : sys.identify path s₀ = (.ok device.identity, s₁))
      (hopened : sys.openFile path mode s₁ = (.ok device.file, s₂))
      (hcalls : [.identify s₀ path, .openFile s₁ path mode] <:+: past) : Acquired sys path mode past device s₀ s₁

namespace Acquired

variable {mode : OpenMode} {past : List (SystemCall σ φ)} {device : Device φ} {s₀ s₁ : σ}

theorem mono {past' : List (SystemCall σ φ)} (h : Acquired sys path mode past device s₀ s₁) (hpast : past <:+: past') :
    Acquired sys path mode past' device s₀ s₁ := by
  cases h with
  | opened hopened hlook hcalls => exact .opened hopened hlook (hcalls.trans hpast)
  | reopened hlook hopened hcalls => exact .reopened hlook hopened (hcalls.trans hpast)

/-- The state in which the file was opened. -/
theorem opens (h : Acquired sys path mode past device s₀ s₁) : ∃ s, (s = s₀ ∨ s = s₁)
    ∧ .openFile s path mode ∈ past ∧ (sys.openFile path mode s).1 = .ok device.file := by
  cases h with
  | opened hopened hlook hcalls =>
    exact ⟨s₀, Or.inl rfl, hcalls.subset List.mem_cons_self, congrArg Prod.fst hopened⟩
  | reopened hlook hopened hcalls =>
    exact ⟨s₁, Or.inr rfl, hcalls.subset (List.mem_cons_of_mem _ List.mem_cons_self), congrArg Prod.fst hopened⟩

/-- File and identity belong to the same device exactly if the path named the same device in both calls. -/
theorem agrees_iff (n : Nodes sys δ) (h : Acquired sys path mode past device s₀ s₁) :
    device.identity = n.identity (n.device device.file) ↔ n.named s₀ path = n.named s₁ path := by
  cases h with
  | opened hopened hlook hcalls =>
    have hfile := n.openFile_eq hopened
    obtain ⟨x, hx, hidentity⟩ := Option.map_eq_some_iff.1 (n.identify_eq hlook)
    rw [hfile, hx, Option.some_inj, ← hidentity, n.unique.eq_iff, eq_comm]
  | reopened hlook hopened hcalls =>
    have hfile := n.openFile_eq hopened
    obtain ⟨x, hx, hidentity⟩ := Option.map_eq_some_iff.1 (n.identify_eq hlook)
    rw [hfile, hx, Option.some_inj, ← hidentity, n.unique.eq_iff]

end Acquired

namespace Looks

variable {device device' : Device φ} {s s' : σ} {calls : List (SystemCall σ φ)} {r : Except TransportError Unit}

/-- A device that looks for another one keeps its path and its options. -/
theorem path_eq (h : Looks sys device s calls r device' s') : device'.path = device.path := by
  cases h <;> rfl

theorem options_eq (h : Looks sys device s calls r device' s') : device'.options = device.options := by
  cases h <;> rfl

/-- A device that looks for another one is the same afterwards, or has a file and an identity from its two calls. -/
theorem acquired (h : Looks sys device s calls r device' s') : device' = device
    ∨ ∃ s₁, Acquired sys device.path device.options.mode calls device' s s₁ := by
  cases h with
  | unseen hlook => exact Or.inl rfl
  | same hlook => exact Or.inl rfl
  | unopened hlook hne hopened => exact Or.inl rfl
  | reopened hlook hne hopened => exact Or.inr ⟨_, .reopened hlook hopened (List.infix_refl _)⟩

/-- The first call asks what the path names. -/
theorem head (h : Looks sys device s calls r device' s') : ∃ rest, calls = .identify s device.path :: rest := by
  cases h <;> exact ⟨_, rfl⟩

end Looks

/-- Whether executing a command opens a file. -/
def Reopens (sys : System σ φ) (d : CommandDescriptor) (w : World (Host σ φ)) : Prop :=
  ∃ s path mode, .openFile s path mode ∈ systemCalls sys d w

/-- A device that looks for another one opens a file exactly if the path names a device with another identity than the
recorded one. -/
theorem Looks.opens_iff {device device' : Device φ} {s s' : σ} {calls : List (SystemCall σ φ)}
    {r : Except TransportError Unit} (h : Looks sys device s calls r device' s') :
    (∃ t p mode, .openFile t p mode ∈ calls) ↔ ∃ i, (sys.identify device.path s).1 = .ok i ∧ i ≠ device.identity := by
  cases h with
  | unseen hlook => simp [hlook]
  | same hlook => simp [hlook]
  | unopened hlook hne hopened => simp [hlook, hne]
  | reopened hlook hne hopened => simp [hlook, hne]

/-- Executing a command looks for another device first, and opens no file afterwards. -/
theorem execute_looks (sys : System σ φ) (d : CommandDescriptor) (w : World (Host σ φ))
    (hdetect : w.device.device.options.detectReplug = true) :
    ∃ calls rest r s, Looks sys w.device.device w.device.system calls r (execute sys d w).2.device.device s
      ∧ systemCalls sys d w = calls ++ rest ∧ ∀ t p mode, .openFile t p mode ∉ rest := by
  rcases execute_cases sys d w hdetect with ⟨e, hlooks, -⟩ | ⟨calls, s, hlooks, hcalls, -⟩
  · exact ⟨_, [], _, _, hlooks, (List.append_nil _).symm, fun _ _ _ => List.not_mem_nil⟩
  · exact ⟨calls, _, _, s, hlooks, hcalls, fun t p mode h => by cases eq_of_mem_controlCalls h⟩

/-- A command opens a file exactly if the path names a device with another identity than the recorded one. -/
theorem reopens_iff (sys : System σ φ) (d : CommandDescriptor) (w : World (Host σ φ))
    (hdetect : w.device.device.options.detectReplug = true) : Reopens sys d w
      ↔ ∃ i, (sys.identify w.device.device.path w.device.system).1 = .ok i ∧ i ≠ w.device.device.identity := by
  obtain ⟨calls, rest, r, s, hlooks, hcalls, hrest⟩ := execute_looks sys d w hdetect
  rw [← hlooks.opens_iff, Reopens, hcalls]
  constructor
  · rintro ⟨t, p, mode, hmem⟩
    exact ⟨t, p, mode, (List.mem_append.1 hmem).resolve_right (hrest t p mode)⟩
  · rintro ⟨t, p, mode, hmem⟩
    exact ⟨t, p, mode, List.mem_append_left _ hmem⟩

namespace Serves

variable {past : List (SystemCall σ φ)} {w : World (Host σ φ)}

/-- A device keeps its path and its options. -/
theorem kept (h : Serves sys path options past w) (hdetect : options.detectReplug = true) :
    w.device.device.path = path ∧ w.device.device.options = options := by
  induction h with
  | opened h =>
    obtain ⟨hpath, hoptions, -⟩ := openDevice_eq_ok sys h
    exact ⟨hpath, hoptions⟩
  | executed h d ih =>
    obtain ⟨hpath, hoptions⟩ := ih
    obtain ⟨calls, rest, r, s, hlooks, -⟩ := execute_looks sys d _ (hoptions.symm ▸ hdetect)
    exact ⟨hlooks.path_eq.trans hpath, hlooks.options_eq.trans hoptions⟩
  | changed h s ih => exact ih

/-- File and identity of a device come from two calls in a row. -/
theorem acquired (h : Serves sys path options past w) (hdetect : options.detectReplug = true) :
    ∃ s₀ s₁, Acquired sys path options.mode past w.device.device s₀ s₁ := by
  induction h with
  | @opened w₀ w' device h =>
    obtain ⟨-, -, s, hopened, hlook, hcalls⟩ := openDevice_eq_ok sys h
    exact ⟨w₀.device, s, .opened hopened hlook (hcalls ▸ List.infix_refl _)⟩
  | @executed past w h d ih =>
    obtain ⟨hpath, hoptions⟩ := h.kept hdetect
    obtain ⟨calls, rest, r, s, hlooks, hcalls, -⟩ := execute_looks sys d w (hoptions.symm ▸ hdetect)
    rcases hlooks.acquired with hsame | ⟨s₁, hacquired⟩
    · obtain ⟨s₀, s₁, hbefore⟩ := ih
      exact ⟨s₀, s₁, hsame.symm ▸ hbefore.mono (List.prefix_append _ _).isInfix⟩
    · rw [hpath, hoptions] at hacquired
      have hmade : calls <:+: past ++ systemCalls sys d w := ⟨past, rest, by rw [hcalls, List.append_assoc]⟩
      exact ⟨w.device.system, s₁, hacquired.mono hmade⟩
  | changed h s ih => exact ih

end Serves

/-! ## A path in memory -/

/-- A device that a path names, and whether the system says so and opens it. -/
structure Plug where
  identity : Identity
  readable : Bool := true
  openable : Bool := true
  deriving DecidableEq, Repr

/-- A system whose states are the devices that paths name at the next calls; `pass` is what a call leaves of them. Files
are told apart by the identities of their devices, and every command succeeds. -/
def plugs (pass : List Plug → List Plug) : System (List Plug) Identity where
  openFile _ _ s :=
    (match s.head? with
      | none => .error (.errno Errno.noEntry)
      | some x => if x.openable then .ok x.identity else .error (.errno Errno.accessDenied), pass s)
  identify _ s :=
    (match s.head? with
      | none => .error (.errno Errno.noEntry)
      | some x => if x.readable then .ok x.identity else .error (.errno Errno.accessDenied), pass s)
  control _ _ _ _ s := ({}, pass s)
  placement _ := ⟨0x10000, 0x20000⟩

/-- The devices of a system in memory are their identities. -/
def plugNodes (pass : List Plug → List Plug) : Nodes (plugs pass) Identity where
  named s _ := s.head?.map Plug.identity
  device file := file
  identity i := i
  unique := Function.injective_id
  identify_eq := by
    rintro path (_ | ⟨x, s⟩) s' i h
    · cases h
    · cases hx : x.readable with
      | false => simp [plugs, hx] at h
      | true => simp_all [plugs]
  openFile_eq := by
    rintro path mode (_ | ⟨x, s⟩) s' file h
    · cases h
    · cases hx : x.openable with
      | false => simp [plugs, hx] at h
      | true => simp_all [plugs]

/-- A device at the path. -/
def firstPlug : Plug := ⟨⟨6, 331, 61440⟩, true, true⟩

/-- A device that takes its place. -/
def secondPlug : Plug := ⟨⟨6, 347, 61440⟩, true, true⟩

/-- A Keep Alive command. -/
def keepAlive : CommandDescriptor := ⟨.admin 0x18, 0, 0, 0, {}, none, none, none, none⟩

/-! ## The recorded identity -/

/-- **The recorded identity** of a device that looks for another one before each command, whatever its path names at
each call: it is that of the device that the file is open on exactly if the path named the same device in the two calls
that file and identity come from. A command opens a file exactly if the device that the path names then has another
identity than the recorded one. -/
theorem recorded_identity (n : Nodes sys δ) {past : List (SystemCall σ φ)} {w : World (Host σ φ)}
    (hdetect : options.detectReplug = true) (h : Serves sys path options past w) :
    (∃ s₀ s₁, Acquired sys path options.mode past w.device.device s₀ s₁
        ∧ (w.device.device.identity = n.identity (n.device w.device.device.file) ↔ n.named s₀ path = n.named s₁ path))
      ∧ ∀ d x, n.named w.device.system path = some x → (sys.identify path w.device.system).1.isOk = true →
        (Reopens sys d w ↔ n.identity x ≠ w.device.device.identity) := by
  obtain ⟨s₀, s₁, hacquired⟩ := h.acquired hdetect
  obtain ⟨hpath, hoptions⟩ := h.kept hdetect
  refine ⟨⟨s₀, s₁, hacquired, hacquired.agrees_iff n⟩, fun d x hx hok => ?_⟩
  rw [reopens_iff sys d w (hoptions.symm ▸ hdetect), hpath]
  rcases hlook : sys.identify path w.device.system with ⟨e | i, s⟩
  · rw [hlook] at hok
    cases hok
  · have hidentity := n.identify_eq hlook
    rw [hx, Option.map_some, Option.some_inj] at hidentity
    rw [hidentity]
    constructor
    · rintro ⟨i', hi', hne⟩
      cases hi'
      exact hne
    · exact fun hne => ⟨i, rfl, hne⟩

/-- A device that is replaced between two commands. -/
theorem recorded_identity_replaced : ∃ past w, Serves (plugs id) "nvme0" {} past w
    ∧ w.device.device.identity = secondPlug.identity
    ∧ (∃ s₀ s₁, Acquired (plugs id) "nvme0" ⟨true, true⟩ past w.device.device s₀ s₁
      ∧ s₀.head?.map Plug.identity = s₁.head?.map Plug.identity)
    ∧ ∀ d, ¬ Reopens (plugs id) d w := by
  have hopened : Serves (plugs id) "nvme0" {} _ _ := .opened (w := ⟨[firstPlug], []⟩) rfl
  have hserves := (hopened.changed [secondPlug]).executed keepAlive
  obtain ⟨⟨s₀, s₁, hacquired, hiff⟩, hopens⟩ := recorded_identity (plugNodes id) rfl hserves
  refine ⟨_, _, hserves, by decide +kernel, ⟨s₀, s₁, hacquired, hiff.1 (by decide +kernel)⟩, fun d => ?_⟩
  rw [hopens d secondPlug.identity (by decide +kernel) (by decide +kernel)]
  exact not_not.2 (by decide +kernel)

/-- **A device that is replaced while it is opened** is not missed: the path named the first device when the file was
opened, and the second one when it was asked for the identity. A command then finds that the path names the second one,
as recorded, and goes to the first one. -/
theorem other_identity_recorded : ∃ w, Serves (plugs List.tail) "nvme0" {}
      [.openFile [firstPlug, secondPlug, secondPlug, secondPlug] "nvme0" ⟨true, true⟩,
        .identify [secondPlug, secondPlug, secondPlug] "nvme0"] w
    ∧ w.device.device.identity ≠ (plugNodes List.tail).identity ((plugNodes List.tail).device w.device.device.file)
    ∧ ∀ d, Describable d → systemCalls (plugs List.tail) d w =
      [.identify [secondPlug, secondPlug] "nvme0",
        .control [secondPlug] firstPlug.identity (requestCode d.opcode) (Request.ofCommand d ⟨0x10000, 0x20000⟩)] := by
  refine ⟨_, .opened (w := ⟨[firstPlug, secondPlug, secondPlug, secondPlug], []⟩) rfl, by decide +kernel,
    fun d hfits => ?_⟩
  refine (submit_traced (plugs List.tail) d ⟨⟨⟨"nvme0", firstPlug.identity, secondPlug.identity, {}⟩,
    [secondPlug], [.identify [secondPlug, secondPlug] "nvme0"]⟩, _⟩).1.trans ?_
  rw [controlCalls, if_pos hfits]
  rfl

end StorageCommands.Linux
