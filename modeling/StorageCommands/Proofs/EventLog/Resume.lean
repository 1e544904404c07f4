import StorageCommands.Proofs.EventLog.Scripted
import StorageCommands.Proofs.EventLog.Snapshot

/-!
# Going on with a read

After a command that was not delivered, a session asks the controller whether there is a reporting context
(`checkContext`), and then goes on with the read that it kept. The question is only whether there is a context, not
whether it is still the same: the read is kept whatever header the controller shows.

- `checkContext_resumes`: if other hosts leave the context alone while a read is kept, during the calls
  (`LogController.answers`) and between them (`LogController.Undisturbed`), the header is the one of the read, and the
  read goes on in the same image.
- `other_context_resumed`: if another host has put its own context in the place of the one that was read, the session
  goes on all the same, and gives a log that is made of two.
-/

namespace StorageCommands.EventLog

open Nvme

variable {σ : Type} {c : LogController σ} {t : Transport σ} {d d' : Dialogue σ}

/-! ## Asking -/

/-- A read is not given up if the controller has a context. -/
theorem checkContext_keeps_progress (t : Transport σ) (d : Dialogue σ) : Ensures (checkContext t) d fun r d' =>
    r = .ok .established → d'.session.progress = d.session.progress := by
  refine checkContext_ensures (getLog_keeps_progress t .read 0 headerLength d) ?_ ?_
  · intro e d₁ _ hr
    cases hr
  · intro status d₁ h₁ w _ hr
    rw [Except.ok.inj hr]
    exact h₁

/-- A controller that is asked shows the header of the image from which a read was kept. -/
theorem checkContext_reading {image : Bytes} {p : Progress} (h : c.Reading d image p d) :
    Ensures (checkContext c.transport) d fun r d' => r = .ok .established →
      c.contextOf d' = some image ∧ d'.session.buffer.bytes.take headerLength = image.window 0 headerLength := by
  refine checkContext_ensures (getLog_ensures c .read (by decide) d) ?_ ?_
  · intro e d₁ _ hr
    cases hr
  · intro status d₁ h₁ w hw hr
    have hsuccess : status.isSuccess = true := verdict_eq_established.mp (Except.ok.inj hr)
    obtain ⟨himage, -, hdata⟩ := h.served h₁ hsuccess hw
    exact ⟨himage, hdata⟩

/-! ## Going on -/

/-- A log that ends a read is cut from the image from which the read began. -/
theorem readLog_resumes {image : Bytes} {p : Progress} (h : c.Reading d image p d) :
    Ensures (readLog c.transport) d fun r _ => ∀ log, r = .ok log → log.header = p.header ∧ log.CutFrom image := by
  refine readLog_ensures (fun _ => ?_) (fun _ _ hr => by cases hr) (fun _ _ hr => by cases hr)
  refine readLogUnchecked_ensures (fun r d₁ => r = .ok p ∧ d₁ = d) (c.Ended d image) ?_ ?_ ?_ ?_ ?_ ?_
  · intro p' hp'
    rw [h.kept] at hp'
    cases hp'
    exact ⟨rfl, rfl⟩
  · intro hnone
    rw [h.kept] at hnone
    cases hnone
  · rintro p' d₁ ⟨hp', rfl⟩
    cases hp'
    exact readRest_finished h
  · rintro e d₁ ⟨he, -⟩
    cases he
  · intro e d₁ _ log hr
    cases hr
  · intro p' d₁ h₁ w _ log hr
    cases hr
    obtain ⟨hpart, hdone, -⟩ := h₁
    exact ⟨Except.ok.inj (hpart.header.symm.trans h.part.header), hpart.cutFrom hdone⟩

/-- Between two operations other hosts make no context while the session keeps a read. The context may be lost. That
they make none during an operation either is said by `LogController.answers`. -/
def LogController.Undisturbed (c : LogController σ) (d : Dialogue σ) (w : World σ) : Prop :=
  d.session.progress ≠ none → c.Loses d w

/-- **A read that was kept goes on**: it is kept if the controller has a context, whatever other hosts have done.

Let the device be a controller that answers every command of a call from its own context, which it may lose at any
moment but which no other host replaces (`LogController.answers`), and let other hosts make no context between two calls
while the session keeps a read (`LogController.Undisturbed`). Then the controller shows the header of the read, and what
`readLog` reads right after that comes from the same image. -/
theorem checkContext_resumes {between : Dialogue σ → World σ → Prop} {p : Progress} (h : Reaches t between d)
    (hp : d.session.progress = some p) (hrun : (checkContext t).run.run d = (.ok .established, d')) :
    d'.session.progress = some p ∧
      ∀ c : LogController σ, c.transport = t → (∀ d w, between d w → c.Undisturbed d w) →
        Header.decode (d'.session.buffer.bytes.take headerLength) = .ok p.header ∧
        ∃ image, PartOf image p ∧ c.contextOf d' = some image ∧
          ∀ log d'', (readLog t).run.run d' = (.ok log, d'') → log.header = p.header ∧ log.CutFrom image := by
  have hkept := checkContext_keeps_progress t d
  unfold Ensures at hkept
  rw [hrun] at hkept
  have hp' : d'.session.progress = some p := (hkept rfl).trans hp
  refine ⟨hp', ?_⟩
  rintro c rfl hb
  obtain ⟨hlt, image, hpart, hcontext⟩ := h.consistent hb p hp
  have hshown := checkContext_reading ⟨.refl _ _, hpart, hp, hcontext, Or.inl hlt⟩
  unfold Ensures at hshown
  rw [hrun] at hshown
  obtain ⟨hcontext', hdata⟩ := hshown rfl
  refine ⟨by rw [hdata]; exact hpart.header, image, hpart, hcontext', fun log d'' hlog => ?_⟩
  have hreading : c.Reading d' image p d' := ⟨.refl _ _, hpart, hp', Or.inl hcontext', Or.inl hlt⟩
  have hresumed := readLog_resumes hreading
  unfold Ensures at hresumed
  rw [hlog] at hresumed
  exact hresumed log rfl

/-- The read that was cut off goes on in its own image. -/
theorem checkContext_resumes_interrupted : ∃ p d,
    Scripted.interrupted.session.progress = some p ∧
      (checkContext Scripted.controller.transport).run.run Scripted.interrupted = (.ok .established, d) ∧
      d.session.progress = some p ∧ Header.decode (d.session.buffer.bytes.take headerLength) = .ok p.header ∧
      ∃ image, PartOf image p ∧ Scripted.controller.contextOf d = some image ∧
        ∀ log d', (readLog Scripted.controller.transport).run.run d = (.ok log, d') →
          log.header = p.header ∧ log.CutFrom image := by
  have hkept : Scripted.interrupted.session.progress.isSome = true := by decide +kernel
  have hanswer : ((checkContext Scripted.controller.transport).run.run Scripted.interrupted).1 = .ok .established := by
    decide +kernel
  obtain ⟨p, hp⟩ := Option.isSome_iff_exists.mp hkept
  rcases hrun : (checkContext Scripted.controller.transport).run.run Scripted.interrupted with ⟨r, d⟩
  rw [hrun] at hanswer
  obtain rfl : r = .ok .established := hanswer
  obtain ⟨hp', hresumes⟩ := checkContext_resumes
    (Scripted.reaches_interrupted Scripted.controller.Undisturbed) hp hrun
  exact ⟨p, d, hp, rfl, hp', hresumes Scripted.controller rfl fun _ _ h => h⟩

/-! ## Another context -/

namespace Scripted

/-- While the session does not know whether there is a context, another host replaces it. -/
def usurped : Dialogue Scripted :=
  { interrupted with world.device := { interrupted.world.device with context := some (image 9) } }

/-- The session asks whether there is a context. -/
def asked : Except Error ContextState × Dialogue Scripted := (checkContext controller.transport).run.run usurped

/-- It goes on with the read that it kept. -/
def resumed : Except Error Log × Dialogue Scripted := (readLog controller.transport).run.run asked.2

end Scripted

open Scripted in
/-- **Another context is not noticed**: the controller shows another header, and the read goes on all the same, to a log
whose halves come from different images. -/
theorem other_context_resumed :
    Reaches controller.transport (fun d _ => d.session.state = .unknown) usurped ∧
      ∃ p, usurped.session.progress = some p ∧ asked.1 = .ok .established ∧ asked.2.session.progress = some p ∧
        Header.decode (asked.2.session.buffer.bytes.take headerLength) ≠ .ok p.header ∧
        resumed.1 = .ok ⟨p.header, (image 7).take 512 ++ ((image 9).drop 512).take 488⟩ := by
  have hrun : interrupted.session.state = .unknown ∧ asked.1 = .ok .established
      ∧ asked.2.session.progress = usurped.session.progress ∧ usurped.session.progress.isSome = true
      ∧ ∀ p ∈ usurped.session.progress,
        Header.decode (asked.2.session.buffer.bytes.take headerLength) ≠ .ok p.header
        ∧ resumed.1 = .ok ⟨p.header, (image 7).take 512 ++ ((image 9).drop 512).take 488⟩ := by decide +kernel
  obtain ⟨hunknown, hanswer, hsame, hkept, hlog⟩ := hrun
  obtain ⟨p, hp⟩ := Option.isSome_iff_exists.mp hkept
  exact ⟨.idle (reaches_interrupted _) hunknown, p, hp, hanswer, hsame.trans hp, hlog p hp⟩

end StorageCommands.EventLog
