import StorageCommands.Proofs.EventLog.Controller
import StorageCommands.Proofs.EventLog.Operations
import StorageCommands.Proofs.EventLog.Scripted

/-!
# One log, one snapshot

A log that a session returns is one image of the log that the controller froze for a reporting context, cut to the
length that its header reports, though the read may have failed halfway, more than once, while contexts came and went.

- A read that has been kept is a part of one image (`PartOf`), and the controller's context, if there is one, has that
  image (`Consistent`). Losing the context keeps this, and so does every operation: a context is only established
  after the read was given up (`establish_ensures`).
- So the next chunk comes from the same image (`readChunks_ensures`), and a finished read holds all of it.
- `Reaches` are the dialogues that operations lead to, with moments between them at which the context may be lost.
-/

namespace StorageCommands.EventLog

open Nvme

variable {σ : Type}

/-! ## Parts of an image -/

/-- What has been read so far comes from an image. -/
structure PartOf (image : Bytes) (p : Progress) : Prop where
  header : Header.decode (image.window 0 headerLength) = .ok p.header
  total : p.header.alignedLength = some p.total
  within : p.offset ≤ p.total
  data : p.data = image.window 0 p.offset

/-- The log is an image, cut to the length that its header reports. -/
structure Log.CutFrom (log : Log) (image : Bytes) : Prop where
  header : Header.decode (image.window 0 headerLength) = .ok log.header
  bytes : log.bytes = image.window 0 log.header.totalLogLength.toNat

theorem alignedLength_bounds {h : Header} {total : Nat} (ht : h.alignedLength = some total) :
    h.totalLogLength.toNat ≤ total ∧ headerLength ≤ total ∧ total < 2 ^ 64 := by
  simp only [Header.alignedLength, Option.ite_none_right_eq_some, Option.some.injEq] at ht
  obtain ⟨hlt, rfl⟩ := ht
  simp only [lengthUnit, headerLength] at hlt ⊢
  omega

/-- A part that is the whole is a log. -/
theorem PartOf.cutFrom {image : Bytes} {p : Progress} (h : PartOf image p) (he : p.offset = p.total) :
    Log.CutFrom ⟨p.header, p.data.take p.header.totalLogLength.toNat⟩ image := by
  obtain ⟨hle, -, -⟩ := alignedLength_bounds h.total
  refine ⟨h.header, ?_⟩
  rw [h.data, Bytes.take_window, he, Nat.min_eq_left hle]

/-- The next bytes of the image make the part longer. -/
theorem PartOf.append {image : Bytes} {p : Progress} (h : PartOf image p) {n : Nat} (hn : p.offset + n ≤ p.total) :
    PartOf image { p with offset := p.offset + n, data := p.data ++ image.window p.offset n } where
  header := h.header
  total := h.total
  within := hn
  data := by
    have := Bytes.window_append image 0 p.offset n
    rw [Nat.zero_add] at this
    rw [h.data, this]

namespace LogController

variable (c : LogController σ)

/-- A read that is kept is unfinished and part of one image, and no other image is in the controller. -/
def Consistent (d : Dialogue σ) : Prop :=
  ∀ p ∈ d.session.progress, p.offset < p.total ∧
    ∃ image, PartOf image p ∧ (c.contextOf d = some image ∨ c.contextOf d = none)

variable {c}

theorem Consistent.of_none {d : Dialogue σ} (h : d.session.progress = none) : c.Consistent d := by
  intro p hp
  rw [h] at hp
  cases hp

/-- Giving up the read or losing the context breaks nothing. -/
theorem Consistent.weaken {d d' : Dialogue σ} (h : c.Consistent d)
    (hp : d'.session.progress = d.session.progress ∨ d'.session.progress = none)
    (hc : c.contextOf d' = c.contextOf d ∨ c.contextOf d' = none) : c.Consistent d' := by
  rcases hp with hp | hp
  · intro p hp'
    obtain ⟨hlt, image, hpart, himage⟩ := h p (hp ▸ hp')
    refine ⟨hlt, image, hpart, ?_⟩
    rcases hc with hc | hc
    · rw [hc]
      exact himage
    · exact Or.inr hc
  · exact .of_none hp

end LogController

variable {c : LogController σ} {d d' : Dialogue σ}

/-! ## Reading -/

namespace LogController

/-- What an action leaves behind when it fails, or gives no log. -/
def Safe (c : LogController σ) (d d' : Dialogue σ) : Prop :=
  Evolves c.transport d.world d'.world ∧ c.Consistent d'

/-- A header has begun a read, or a read goes on: it is part of the image that was last seen in the controller. -/
structure Reading (c : LogController σ) (d₀ : Dialogue σ) (image : Bytes) (p : Progress) (d : Dialogue σ) : Prop where
  evolves : Evolves c.transport d₀.world d.world
  part : PartOf image p
  kept : d.session.progress = some p
  context : c.contextOf d = some image ∨ c.contextOf d = none
  /-- A read that is finished was finished in the presence of the image. -/
  held : p.offset < p.total ∨ c.Held image d₀.world d.world

/-- A read has come to its end: it has all of an image that was seen in the controller. -/
def Finished (c : LogController σ) (d₀ : Dialogue σ) (image : Bytes) (p : Progress) (d : Dialogue σ) : Prop :=
  PartOf image p ∧ p.offset = p.total ∧ c.Held image d₀.world d.world

/-- A read has begun, or failed safely. -/
def Begun (c : LogController σ) (d₀ : Dialogue σ) : Except Error Progress → Dialogue σ → Prop
  | .ok p, d => ∃ image, c.Reading d₀ image p d
  | .error _, d => c.Safe d₀ d

/-- A read of an image has come to its end, or failed safely. -/
def Ended (c : LogController σ) (d₀ : Dialogue σ) (image : Bytes) : Except Error Progress → Dialogue σ → Prop
  | .ok p, d => c.Finished d₀ image p d
  | .error _, d => c.Safe d₀ d

end LogController

open LogController

theorem Refused.progress {s s' : Session} {status : StatusWord} {offset : Nat} {e : Error}
    (h : Refused s status offset e s') : s'.progress = s.progress ∨ s'.progress = none := by
  cases h with
  | noContext => exact Or.inr rfl
  | failed => exact Or.inl rfl

/-- A read that fails leaves what was kept, or nothing. -/
theorem safe_of_transferred {offset len : Nat} {r : Except Error StatusWord} {w : World σ} {s : Session}
    (hc : c.Consistent d) (h : Transferred c .read offset len d r d')
    (hs : s.progress = d'.session.progress ∨ s.progress = none) (hw : w.device = d'.world.device) :
    c.Safe d ⟨s, w⟩ := by
  have hcontext := h.context_of_ne_establish (by decide)
  refine ⟨h.evolves.trans (.same hw), hc.weaken ?_ ?_⟩
  · rw [← h.progress]
    exact hs
  · rw [contextOf, hw]
    exact hcontext

/-- A header begins a read of the image in the controller. -/
theorem readHeader_reading (hp : d.session.progress = none) :
    Ensures (readHeader c.transport) d (c.Begun d) := by
  have hc : c.Consistent d := .of_none hp
  refine readHeader_ensures (getLog_ensures c .read (by decide) d) ?_ ?_ ?_
  · intro e d₁ h₁
    exact safe_of_transferred hc h₁ (Or.inl rfl) rfl
  · intro status d₁ h₁ _ e s w hs hw
    exact safe_of_transferred hc h₁ hs.progress hw
  · intro status d₁ h₁ hsuccess r s w hr hw
    obtain ⟨image, -, hcontext, hdata⟩ := h₁.read hsuccess
    cases hr with
    | undecodable _ => exact safe_of_transferred hc h₁ (Or.inl rfl) hw
    | tooLong _ _ => exact safe_of_transferred hc h₁ (Or.inl rfl) hw
    | @begun header total hdecode htotal _ =>
      have hw' : Evolves c.transport d.world w := h₁.evolves.trans (.same hw)
      have himage : c.context w.device = some image := by rw [hw]; exact hcontext
      have hpart : PartOf image ⟨header, total, headerLength, d₁.session.buffer.bytes.take headerLength⟩ := by
        refine ⟨?_, htotal, (alignedLength_bounds htotal).2.1, hdata⟩
        rw [← hdata]
        exact hdecode
      exact ⟨image, hw', hpart, rfl, Or.inl himage, Or.inr ⟨w, hw', himage, .refl _ w⟩⟩

theorem LogController.Reading.finished {d₀ : Dialogue σ} {image : Bytes} {p : Progress}
    (h : c.Reading d₀ image p d) (hle : p.total ≤ p.offset) : c.Finished d₀ image p d := by
  refine ⟨h.part, Nat.le_antisymm h.part.within hle, ?_⟩
  rcases h.held with hlt | hheld
  · omega
  · exact hheld

theorem LogController.Reading.consistent {d₀ : Dialogue σ} {image : Bytes} {p : Progress}
    (h : c.Reading d₀ image p d) (hlt : p.offset < p.total) : c.Consistent d := by
  intro p' hp'
  rw [h.kept] at hp'
  cases hp'
  exact ⟨hlt, image, h.part, h.context⟩

/-- What is known while a read goes on makes a failed transfer safe. -/
theorem LogController.Reading.safe {d₀ : Dialogue σ} {image : Bytes} {p : Progress} (h : c.Reading d₀ image p d)
    (hlt : p.offset < p.total) {offset len : Nat} {r : Except Error StatusWord}
    (ht : Transferred c .read offset len d r d') {w : World σ} {s : Session}
    (hs : s.progress = d'.session.progress ∨ s.progress = none) (hw : w.device = d'.world.device) :
    c.Safe d₀ ⟨s, w⟩ := by
  obtain ⟨hevolves, hc'⟩ := safe_of_transferred (h.consistent hlt) ht hs hw
  exact ⟨h.evolves.trans hevolves, hc'⟩

/-- A transfer that succeeds was served from the image from which the read began. -/
theorem LogController.Reading.served {d₀ : Dialogue σ} {image : Bytes} {p : Progress} (h : c.Reading d₀ image p d)
    {offset len : Nat} {status : StatusWord} (ht : Transferred c .read offset len d (.ok status) d')
    (hs : status.isSuccess = true) {w : World σ} (hw : w.device = d'.world.device) :
    c.context w.device = some image ∧ Evolves c.transport d₀.world w
      ∧ d'.session.buffer.bytes.take len = image.window offset len := by
  obtain ⟨image', hbefore, hafter, hdata⟩ := ht.read hs
  have hsame : image' = image := by
    rcases h.context with hc | hc
    · exact Option.some.inj (hbefore.symm.trans hc)
    · rw [hc] at hbefore
      cases hbefore
  rw [hsame] at hafter hdata
  refine ⟨?_, h.evolves.trans (ht.evolves.trans (.same hw)), hdata⟩
  rw [hw]
  exact hafter

/-- A chunk comes from the image from which the read began. -/
theorem readChunk_reading {d₀ : Dialogue σ} {image : Bytes} {p : Progress} (h : c.Reading d₀ image p d)
    (hlt : p.offset < p.total) (chunkSize : Nat) : ∃ mid : Except Error StatusWord → Dialogue σ → Prop,
      Ensures (getLog c.transport .read p.offset (p.chunkLength chunkSize)) d mid
      ∧ (∀ e d', mid (.error e) d' → c.Safe d₀ d')
      ∧ (∀ status d', mid (.ok status) d' → status.isSuccess = false → ∀ e s w,
          Refused d'.session status p.offset e s → w.device = d'.world.device → c.Safe d₀ ⟨s, w⟩)
      ∧ (∀ status d', mid (.ok status) d' → status.isSuccess = true → ∀ w, w.device = d'.world.device →
          ∀ next, next = p.advance (p.chunkLength chunkSize) d'.session.buffer.bytes →
          c.Reading d₀ image next ⟨{ d'.session with progress := some next }, w⟩) := by
  have ho : p.offset < 2 ^ 64 := Nat.lt_trans hlt (alignedLength_bounds h.part.total).2.2
  refine ⟨_, getLog_ensures c .read ho d, ?_, ?_, ?_⟩
  · intro e d₁ h₁
    exact h.safe hlt h₁ (Or.inl rfl) rfl
  · intro status d₁ h₁ _ e s w hs hw
    exact h.safe hlt h₁ hs.progress hw
  · intro status d₁ h₁ hsuccess w hw next hnext
    obtain ⟨himage, hw', hdata⟩ := h.served h₁ hsuccess hw
    have hnext : next = { p with
        offset := p.offset + min (p.chunkLength chunkSize) (p.total - p.offset)
        data := p.data ++ image.window p.offset (min (p.chunkLength chunkSize) (p.total - p.offset)) } := by
      have htake : d₁.session.buffer.bytes.take (min (p.chunkLength chunkSize) (p.total - p.offset))
          = image.window p.offset (min (p.chunkLength chunkSize) (p.total - p.offset)) := by
        rw [Nat.min_comm, ← List.take_take, hdata, Bytes.take_window]
      rw [hnext, Progress.advance, htake]
    rw [hnext]
    exact ⟨hw', h.part.append (by omega), rfl, Or.inl himage, Or.inr ⟨w, hw', himage, .refl _ w⟩⟩

theorem readChunks_finished {d₀ : Dialogue σ} {image : Bytes} {p : Progress} (h : c.Reading d₀ image p d)
    {chunkSize : Nat} (pos : 0 < chunkSize) :
    Ensures (readChunks c.transport chunkSize pos p) d (c.Ended d₀ image) := by
  have hloop := readChunks_ensures pos (c.Reading d₀ image) (fun p d h hlt => readChunk_reading h hlt chunkSize) h
  refine hloop.mono fun r d' hr => ?_
  cases r with
  | error e => exact hr
  | ok p' =>
    obtain ⟨hreading, hle⟩ := hr
    exact hreading.finished hle

/-- The whole log comes from the image from which the read began. -/
theorem readWhole_finished {d₀ : Dialogue σ} {image : Bytes} {p : Progress} (h : c.Reading d₀ image p d) :
    Ensures (readWhole c.transport p) d (c.Ended d₀ image) := by
  refine readWhole_ensures (getLog_ensures c .read (by decide) d) ?_ ?_ ?_ ?_ ?_
  · intro hle
    exact h.finished hle
  · intro hlt _
    exact ⟨h.evolves, h.consistent hlt⟩
  · intro hlt e d₁ h₁
    exact h.safe hlt h₁ (Or.inl rfl) rfl
  · intro hlt status d₁ h₁ _ e s w hs hw
    exact h.safe hlt h₁ hs.progress hw
  · intro hlt status d₁ h₁ hsuccess w hw
    obtain ⟨himage, hw', hdata⟩ := h.served h₁ hsuccess hw
    exact ⟨⟨h.part.header, h.part.total, Nat.le_refl _, hdata⟩, rfl, w, hw', himage, .refl _ w⟩

/-- However the rest of the log is read, it comes from the image from which the read began. -/
theorem readRest_finished {d₀ : Dialogue σ} {image : Bytes} {p : Progress} (h : c.Reading d₀ image p d) :
    Ensures (if d.session.extended then
      readChunks c.transport d.session.config.chunkSize d.session.chunkSize_pos p else readWhole c.transport p) d
      (c.Ended d₀ image) :=
  readRest_ensures (fun _ => readChunks_finished h d.session.chunkSize_pos) fun _ => readWhole_finished h

/-! ## Operations -/

/-- An operation is safe, and the log that it gives is cut from an image that was in the controller meanwhile. -/
def LogController.Sound (c : LogController σ) (d : Dialogue σ) (r : Except Error (Option Log)) (d' : Dialogue σ) :
    Prop :=
  c.Safe d d' ∧ ∀ log, r = .ok (some log) → ∃ image, c.Held image d.world d'.world ∧ log.CutFrom image

theorem LogController.Safe.same_device (h : c.Safe d d') {w : World σ} (hw : w.device = d'.world.device) :
    c.Safe d ⟨d'.session, w⟩ := by
  refine ⟨h.1.trans (.same hw), h.2.weaken (Or.inl rfl) (Or.inl ?_)⟩
  rw [contextOf, contextOf, hw]

theorem LogController.Safe.sound_of_error (h : c.Safe d d') {e : Error} : c.Sound d (.error e) d' :=
  ⟨h, fun _ hr => by cases hr⟩

theorem LogController.Safe.sound_of_noLog (h : c.Safe d d') {r : Except Error (Option Log)} (hr : NoLog r) :
    c.Sound d r d' :=
  ⟨h, fun log hlog => (hr log hlog).elim⟩

theorem readLogUnchecked_sound (hc : c.Consistent d) :
    Ensures (readLogUnchecked c.transport) d fun r d' => c.Sound d (r.map some) d' := by
  refine readLogUnchecked_ensures (c.Begun d) (fun r d' => ∃ image, c.Ended d image r d') ?_ readHeader_reading
    ?_ ?_ ?_ ?_
  · intro p hp
    obtain ⟨hlt, image, hpart, hcontext⟩ := hc p hp
    exact ⟨image, .refl _ _, hpart, hp, hcontext, Or.inl hlt⟩
  · intro p d₁ h₁
    obtain ⟨image, hreading⟩ := h₁
    exact (readRest_finished hreading).mono fun _ _ h => ⟨image, h⟩
  · intro e d₁ h₁
    exact Safe.sound_of_error h₁
  · intro e d₁ h₁
    obtain ⟨_, hsafe⟩ := h₁
    exact Safe.sound_of_error hsafe
  · intro p d₁ h₁ w hw
    obtain ⟨image, hpart, hdone, hheld⟩ := h₁
    have hheld' : c.Held image d.world w := hheld.after (.same hw)
    refine ⟨⟨hheld'.evolves, .of_none rfl⟩, fun log hlog => ?_⟩
    cases hlog
    exact ⟨image, hheld', hpart.cutFrom hdone⟩

theorem readLog_sound (hc : c.Consistent d) :
    Ensures (readLog c.transport) d fun r d' => c.Sound d (r.map some) d' := by
  have hsafe : c.Safe d d := ⟨.refl _ _, hc⟩
  exact readLog_ensures (fun _ => readLogUnchecked_sound hc) (fun _ => hsafe.sound_of_error)
    fun _ => hsafe.sound_of_error

/-- A context is established only after the read was given up. -/
theorem establish_safe : Ensures (establish c.transport) d fun _ d' => c.Safe d d' := by
  refine establish_ensures (getLog_ensures c .establish (by decide) _) ?_ ?_ ?_
  · intro e d₁ h₁
    exact ⟨h₁.evolves, .of_none h₁.progress⟩
  · intro status d₁ h₁ _ w hw
    exact ⟨h₁.evolves.trans (.same hw), .of_none h₁.progress⟩
  · intro status d₁ h₁ _ _ w hw
    exact ⟨h₁.evolves.trans (.same hw), .of_none h₁.progress⟩

theorem release_safe : Ensures (release c.transport) d fun _ d' => c.Safe d d' := by
  refine release_ensures (getLog_ensures c .release (by decide) d) fun r d₁ h₁ w hw => ?_
  exact ⟨h₁.evolves.trans (.same hw), .of_none rfl⟩

theorem Session.progress_believing (s : Session) (state : ContextState) :
    (s.believing state).progress = s.progress ∨ (s.believing state).progress = none := by
  unfold Session.believing
  by_cases h : state = .notEstablished
  · exact Or.inr (if_pos h)
  · exact Or.inl (if_neg h)

theorem checkContext_safe (hc : c.Consistent d) : Ensures (checkContext c.transport) d fun _ d' => c.Safe d d' := by
  refine checkContext_ensures (getLog_ensures c .read (by decide) d) ?_ ?_
  · intro e d₁ h₁
    exact safe_of_transferred hc h₁ (Or.inl rfl) rfl
  · intro status d₁ h₁ w hw
    exact safe_of_transferred hc h₁ (Session.progress_believing _ _) hw

theorem retrieve_sound : Ensures (retrieve c.transport) d fun r d' => c.Sound d (r.map some) d' := by
  refine retrieve_ensures (fun r d' => c.Sound d (r.map some) d') establish_safe ?_ ?_ ?_
  · intro d₁ h₁
    refine (readLog_sound h₁.2).mono fun r d₂ h₂ => ?_
    refine ⟨⟨h₁.1.trans h₂.1.1, h₂.1.2⟩, fun log hlog => ?_⟩
    obtain ⟨image, hheld, hcut⟩ := h₂.2 log hlog
    exact ⟨image, hheld.before h₁.1, hcut⟩
  · intro e d₁ h₁
    exact h₁.sound_of_error
  · intro r d₂ h₂
    refine release_safe.mono fun _ d₃ h₃ w hw => ?_
    obtain ⟨hw', hc⟩ := h₃.same_device hw
    refine ⟨⟨h₂.1.1.trans hw', hc⟩, fun log hlog => ?_⟩
    obtain ⟨image, hheld, hcut⟩ := h₂.2 log hlog
    exact ⟨image, hheld.after hw', hcut⟩

/-! ## Runs -/

/-- **Every operation is sound** where it finds a consistent dialogue. -/
theorem perform_sound (hc : c.Consistent d) (op : Operation) :
    Ensures (op.perform c.transport) d (c.Sound d) := by
  cases op with
  | establish => exact .noLog (establish_safe.mono fun _ _ h _ hr => h.sound_of_noLog hr)
  | readLog => exact .log (readLog_sound hc)
  | readLogUnchecked => exact .log (readLogUnchecked_sound hc)
  | checkContext => exact .noLog ((checkContext_safe hc).mono fun _ _ h _ hr => h.sound_of_noLog hr)
  | release => exact .noLog (release_safe.mono fun _ _ h _ hr => h.sound_of_noLog hr)
  | retrieve => exact .log retrieve_sound

/-- Between two operations the context may be lost. -/
def LogController.Loses (c : LogController σ) (d : Dialogue σ) (w : World σ) : Prop :=
  c.context w.device = c.contextOf d ∨ c.context w.device = none

/-- **Every dialogue that operations lead to is consistent**, if between two of them the context of a read that is kept
is at most lost. -/
theorem Reaches.consistent {between : Dialogue σ → World σ → Prop} (h : Reaches c.transport between d)
    (hb : ∀ d w, between d w → d.session.progress ≠ none → c.Loses d w) : c.Consistent d := by
  induction h with
  | new h w => exact .of_none (Session.fresh_new h).progress
  | probe h => exact .of_none (fresh_probe h).progress
  | perform op _ ih => exact (perform_sound ih op).1.2
  | @idle d w _ hw ih =>
    by_cases hp : d.session.progress = none
    · exact .of_none hp
    · exact ih.weaken (Or.inl rfl) (hb d w hw hp)

/-- **One log, one snapshot**: a log that an operation gives is cut from one image, which the controller held for its
reporting context during that operation, whatever happened before. -/
theorem log_is_one_snapshot (c : LogController σ) (d : Dialogue σ) (h : Reaches c.transport c.Loses d)
    (op : Operation) (log : Log) (d' : Dialogue σ) (hrun : (op.perform c.transport).run.run d = (.ok (some log), d')) :
    ∃ image, c.Held image d.world d'.world
      ∧ Header.decode (image.window 0 headerLength) = .ok log.header
      ∧ log.bytes = image.window 0 log.header.totalLogLength.toNat := by
  have hsound := perform_sound (h.consistent fun _ _ hw _ => hw) op
  unfold Ensures at hsound
  rw [hrun] at hsound
  obtain ⟨image, hheld, hcut⟩ := hsound.2 log rfl
  exact ⟨image, hheld, hcut.header, hcut.bytes⟩

/-- A read that was cut off goes on, and ends with one image. -/
theorem log_is_one_snapshot_interrupted : ∃ log d,
    (Operation.readLogUnchecked.perform Scripted.controller.transport).run.run Scripted.interrupted
        = (.ok (some log), d)
      ∧ log.bytes.length = 1000
      ∧ ∃ image, Scripted.controller.Held image Scripted.interrupted.world d.world
        ∧ Header.decode (image.window 0 headerLength) = .ok log.header
        ∧ log.bytes = image.window 0 log.header.totalLogLength.toNat := by
  have hlength : (((Operation.readLogUnchecked.perform Scripted.controller.transport).run.run
      Scripted.interrupted).1.toOption.bind (·.map (·.bytes.length))) = some 1000 := by decide +kernel
  rcases hrun : (Operation.readLogUnchecked.perform Scripted.controller.transport).run.run Scripted.interrupted
    with ⟨r, d⟩
  rw [hrun] at hlength
  obtain e | ⟨_ | log⟩ := r
  · cases hlength
  · cases hlength
  · have hone := log_is_one_snapshot Scripted.controller Scripted.interrupted (Scripted.reaches_interrupted _)
      .readLogUnchecked log d hrun
    exact ⟨log, d, rfl, Option.some.inj hlength, hone⟩

end StorageCommands.EventLog
