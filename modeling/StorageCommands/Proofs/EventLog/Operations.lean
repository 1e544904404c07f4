import StorageCommands.Proofs.EventLog.Dialogue

/-!
# What the operations of a session leave behind

One rule for each operation, given what its transfers leave behind, and the dialogues that operations lead to
(`Reaches`). Between two operations the world may change in ways that are left open.
-/

namespace StorageCommands.EventLog

open Nvme Trace

variable {σ α : Type}

/-! ## One operation -/

theorem establish_ensures {t : Transport σ} {d : Dialogue σ} {mid : Except Error StatusWord → Dialogue σ → Prop}
    {post : Except Error Unit → Dialogue σ → Prop}
    (h : Ensures (getLog t .establish 0 headerLength) { d with session := { d.session with progress := none } } mid)
    (herr : ∀ e d', mid (.error e) d' → post (.error e) d')
    (hok : ∀ status d', mid (.ok status) d' → (status.isSuccess = true ∨ status.isSequenceError = true) →
      ∀ w, w.device = d'.world.device → post (.ok ()) ⟨d'.session.believing .established, w⟩)
    (hfailed : ∀ status d', mid (.ok status) d' → status.isSuccess = false → status.isSequenceError = false →
      ∀ w, w.device = d'.world.device → post (.error (.establishFailed status)) ⟨d'.session.believing .unknown, w⟩) :
    Ensures (establish t) d post := by
  unfold establish
  refine .seq (.dropProgress (h.bind (fun status d₁ h₁ => ?_) herr))
  cases hs : status.isSuccess with
  | true => exact .setState fun w hw => hok status d₁ h₁ (Or.inl hs) w hw
  | false =>
    cases hq : status.isSequenceError with
    | true => exact .seq (.note fun w hw => .setState fun w' hw' => hok status d₁ h₁ (Or.inr hq) w' (hw'.trans hw))
    | false => exact .seq (.setState fun w hw => .throw (hfailed status d₁ h₁ hs hq w hw))

theorem release_ensures {t : Transport σ} {d : Dialogue σ} {mid : Except Error StatusWord → Dialogue σ → Prop}
    {post : Except Error Unit → Dialogue σ → Prop} (h : Ensures (getLog t .release 0 headerLength) d mid)
    (hdone : ∀ r d', mid r d' → ∀ w, w.device = d'.world.device →
      post (r.map fun _ => ()) ⟨d'.session.believing .notEstablished, w⟩) :
    Ensures (release t) d post := by
  unfold release
  refine .seq (.attempt (h.mono fun r d₁ h₁ => .seq (.setState fun w hw => ?_)))
  cases r with
  | error e => exact .throw (hdone _ d₁ h₁ w hw)
  | ok status => exact .note fun w' hw' => hdone _ d₁ h₁ w' (hw'.trans hw)

/-- What a read of the header says about the context. -/
def verdict (status : StatusWord) : ContextState :=
  if status.isSuccess then .established else if status.isSequenceError then .notEstablished else .unknown

theorem verdict_eq_established {status : StatusWord} : verdict status = .established ↔ status.isSuccess = true := by
  unfold verdict
  cases status.isSuccess <;> cases status.isSequenceError <;> simp

theorem verdict_eq_notEstablished {status : StatusWord} :
    verdict status = .notEstablished ↔ status.isSuccess = false ∧ status.isSequenceError = true := by
  unfold verdict
  cases status.isSuccess <;> cases status.isSequenceError <;> simp

theorem checkContext_ensures {t : Transport σ} {d : Dialogue σ} {mid : Except Error StatusWord → Dialogue σ → Prop}
    {post : Except Error ContextState → Dialogue σ → Prop} (h : Ensures (getLog t .read 0 headerLength) d mid)
    (herr : ∀ e d', mid (.error e) d' → post (.error e) d')
    (hok : ∀ status d', mid (.ok status) d' → ∀ w, w.device = d'.world.device →
      post (.ok (verdict status)) ⟨d'.session.believing (verdict status), w⟩) : Ensures (checkContext t) d post := by
  unfold checkContext
  refine h.bind (fun status d₁ h₁ => ?_) herr
  have hpost := hok status d₁ h₁
  unfold verdict at hpost
  cases hs : status.isSuccess with
  | true =>
    rw [hs] at hpost
    exact .seq (.pure (.seq (.setState fun w hw => .pure (hpost w hw))))
  | false =>
    cases hq : status.isSequenceError with
    | true =>
      rw [hs, hq] at hpost
      exact .seq (.pure (.seq (.setState fun w hw => .pure (hpost w hw))))
    | false =>
      rw [hs, hq] at hpost
      exact .seq (.note fun w hw => .seq (.pure (.seq (.setState fun w' hw' => .pure (hpost w' (hw'.trans hw))))))

/-- The rest of a log is read in chunks or in one piece. -/
theorem readRest_ensures {t : Transport σ} {d : Dialogue σ} {p : Progress}
    {post : Except Error Progress → Dialogue σ → Prop}
    (hchunks : d.session.extended = true →
      Ensures (readChunks t d.session.config.chunkSize d.session.chunkSize_pos p) d post)
    (hwhole : d.session.extended = false → Ensures (readWhole t p) d post) :
    Ensures (if d.session.extended then readChunks t d.session.config.chunkSize d.session.chunkSize_pos p
      else readWhole t p) d post := by
  cases hx : d.session.extended with
  | true => exact hchunks hx
  | false => exact hwhole hx

/-- **Reading the log**: it begins with the read that was kept, or with a header, and goes on to the end. -/
theorem readLogUnchecked_ensures {t : Transport σ} {d : Dialogue σ}
    (begun fin : Except Error Progress → Dialogue σ → Prop) {post : Except Error Log → Dialogue σ → Prop}
    (hkept : ∀ p, d.session.progress = some p → begun (.ok p) d)
    (hheader : d.session.progress = none → Ensures (readHeader t) d begun)
    (hrest : ∀ p d', begun (.ok p) d' → Ensures (if d'.session.extended then
      readChunks t d'.session.config.chunkSize d'.session.chunkSize_pos p else readWhole t p) d' fin)
    (hbegun : ∀ e d', begun (.error e) d' → post (.error e) d')
    (herr : ∀ e d', fin (.error e) d' → post (.error e) d')
    (hok : ∀ p d', fin (.ok p) d' → ∀ w, w.device = d'.world.device →
      post (.ok ⟨p.header, p.data.take p.header.totalLogLength.toNat⟩)
        ⟨{ d'.session with progress := none }, w⟩) :
    Ensures (readLogUnchecked t) d post := by
  have hrun : ∀ p d₁, begun (.ok p) d₁ → Ensures (do
      let s := (← get).session
      let p ← if s.extended then readChunks t s.config.chunkSize s.chunkSize_pos p else readWhole t p
      dropProgress
      note .debug "read persistent event log"
        [("len", toString p.total), ("events", toString p.header.totalEvents)]
      return (⟨p.header, p.data.take p.header.totalLogLength.toNat⟩ : Log)) d₁ post := by
    intro p d₁ h₁
    have hread := hrest p d₁ h₁
    refine .seq (.get ?_)
    cases he : d₁.session.extended with
    | true =>
      simp only [he, if_true] at hread
      simp only [Before, he, if_true]
      exact hread.bind (fun p' d₂ h₂ => .seq (.dropProgress (.seq (.note fun w hw => .pure (hok p' d₂ h₂ w hw))))) herr
    | false =>
      simp only [he, Bool.false_eq_true, if_false] at hread
      simp only [Before, he, Bool.false_eq_true, if_false]
      exact hread.bind (fun p' d₂ h₂ => .seq (.dropProgress (.seq (.note fun w hw => .pure (hok p' d₂ h₂ w hw))))) herr
  unfold readLogUnchecked
  refine .seq (.get ?_)
  cases hp : d.session.progress with
  | some p =>
    simp only [Before, hp]
    exact .seq (.pure (hrun p d (hkept p hp)))
  | none =>
    simp only [Before, hp]
    exact (hheader hp).bind hrun hbegun

theorem readLog_ensures {t : Transport σ} {d : Dialogue σ} {post : Except Error Log → Dialogue σ → Prop}
    (hread : d.session.state = .established → Ensures (readLogUnchecked t) d post)
    (hnone : d.session.state = .notEstablished → post (.error .noContext) d)
    (hunknown : d.session.state = .unknown → post (.error .unknownContext) d) : Ensures (readLog t) d post := by
  unfold readLog
  refine .seq (.get ?_)
  cases hs : d.session.state with
  | established =>
    simp only [Before, hs]
    exact hread hs
  | notEstablished =>
    simp only [Before, hs]
    exact .throw (hnone hs)
  | unknown =>
    simp only [Before, hs]
    exact .throw (hunknown hs)

/-- **Retrieving the log**: once there is a context, the log is read and the context is released, whatever comes of the
read. -/
theorem retrieve_ensures {t : Transport σ} {d : Dialogue σ} {made : Except Error Unit → Dialogue σ → Prop}
    (read : Except Error Log → Dialogue σ → Prop) {post : Except Error Log → Dialogue σ → Prop}
    (hmake : Ensures (establish t) d made) (hread : ∀ d', made (.ok ()) d' → Ensures (readLog t) d' read)
    (herr : ∀ e d', made (.error e) d' → post (.error e) d')
    (hrelease : ∀ r d', read r d' → Ensures (release t) d' fun _ d'' => ∀ w, w.device = d''.world.device →
      post r ⟨d''.session, w⟩) : Ensures (retrieve t) d post := by
  unfold retrieve
  refine hmake.bind (fun _ d₁ h₁ => ?_) herr
  refine .seq (.attempt ((hread d₁ h₁).mono fun r d₂ h₂ => ?_))
  refine .seq (.attempt ((hrelease r d₂ h₂).mono fun r' d₃ h₃ => ?_))
  cases r' with
  | error e =>
    refine .seq (.note fun w hw => ?_)
    cases r with
    | error e => exact .throw (h₃ w hw)
    | ok log => exact .pure (h₃ w hw)
  | ok u =>
    refine .seq (.pure ?_)
    cases r with
    | error e => exact .throw (h₃ d₃.world rfl)
    | ok log => exact .pure (h₃ d₃.world rfl)

/-! ## Runs -/

/-- What a caller can do with a session. -/
inductive Operation
  | establish
  | readLog
  | readLogUnchecked
  | checkContext
  | release
  | retrieve
  deriving DecidableEq, Repr

/-- An operation, with the log that it gives. -/
def Operation.perform (t : Transport σ) : Operation → SessionAction σ (Option Log)
  | establish => do EventLog.establish t; return none
  | readLog => do return some (← EventLog.readLog t)
  | readLogUnchecked => do return some (← EventLog.readLogUnchecked t)
  | checkContext => do let _ ← EventLog.checkContext t; return none
  | release => do EventLog.release t; return none
  | retrieve => do return some (← EventLog.retrieve t)

/-- A result without a log. -/
def NoLog (r : Except Error (Option Log)) : Prop := ∀ log, r ≠ .ok (some log)

theorem noLog_ok : NoLog (.ok none) := nofun

theorem noLog_error (e : Error) : NoLog (.error e) := nofun

/-- An operation that gives a log. -/
theorem Ensures.log {x : SessionAction σ Log} {d : Dialogue σ} {post : Except Error (Option Log) → Dialogue σ → Prop}
    (h : Ensures x d fun r d' => post (r.map some) d') : Ensures (do return some (← x)) d post :=
  h.bind (fun _ _ h => .pure h) fun _ _ h => h

/-- An operation that gives none. -/
theorem Ensures.noLog {x : SessionAction σ α} {d : Dialogue σ} {post : Except Error (Option Log) → Dialogue σ → Prop}
    (h : Ensures x d fun _ d' => ∀ r, NoLog r → post r d') : Ensures (do let _ ← x; return none) d post :=
  h.bind (fun _ _ h => .pure (h _ noLog_ok)) fun e _ h => h _ (noLog_error e)

/-- The dialogues that operations lead to from a session made by `Session.new` or `probe`. Between two operations the
world changes as it may. -/
inductive Reaches (t : Transport σ) (between : Dialogue σ → World σ → Prop) : Dialogue σ → Prop
  | new {extended : Bool} {config : Config} {s : Session} (h : Session.new extended config = .ok s) (w : World σ) :
      Reaches t between ⟨s, w⟩
  | probe {config : Config} {s : Session} {w w' : World σ} (h : (probe t config).run.run w = (.ok s, w')) :
      Reaches t between ⟨s, w'⟩
  | perform (op : Operation) {d : Dialogue σ} (h : Reaches t between d) :
      Reaches t between ((op.perform t).run.run d).2
  | idle {d : Dialogue σ} {w : World σ} (h : Reaches t between d) (hw : between d w) :
      Reaches t between { d with world := w }

/-- Nothing has been done with the session. -/
structure Session.Fresh (s : Session) : Prop where
  state : s.state = .notEstablished
  progress : s.progress = none

theorem Session.fresh_new {extended : Bool} {config : Config} {s : Session} (h : Session.new extended config = .ok s) :
    s.Fresh := by
  unfold Session.new at h
  split at h
  · cases h
    exact ⟨rfl, rfl⟩
  · cases h

theorem Session.maxLogLength_new {extended : Bool} {config : Config} {s : Session}
    (h : Session.new extended config = .ok s) : s.maxLogLength = config.maxLogLength := by
  unfold Session.new at h
  split at h
  · cases h
    rfl
  · cases h

/-- A probe that gives a session has identified the controller. -/
theorem probe_eq_ok {t : Transport σ} {config : Config} {s : Session} {w w' : World σ}
    (h : (probe t config).run.run w = (.ok s, w')) : ∃ identity w₁ s₁, identifyController t w = (.ok identity, w₁)
      ∧ Session.new identity.hasExtendedData config = .ok s₁
      ∧ s = { s₁ with
          maxLogLength := if identity.eventLogUnits.toNat = 0 then s₁.maxLogLength
            else min s₁.maxLogLength (identity.eventLogUnits.toNat * sizeUnit) } := by
  change probe t config w = (.ok s, w') at h
  unfold probe at h
  rcases hi : identifyController t w with ⟨r, w₁⟩
  simp only [hi] at h
  cases r with
  | error e => cases h
  | ok identity =>
    simp only at h
    cases hl : identity.hasEventLog with
    | false => rw [hl] at h; cases h
    | true =>
      cases hn : Session.new identity.hasExtendedData config with
      | error e => simp only [hl, hn, if_true] at h; cases h
      | ok s₁ =>
        simp only [hl, hn, if_true] at h
        cases h
        exact ⟨identity, w₁, s₁, rfl, hn, rfl⟩

theorem fresh_probe {t : Transport σ} {config : Config} {s : Session} {w w' : World σ}
    (h : (probe t config).run.run w = (.ok s, w')) : s.Fresh := by
  obtain ⟨_, _, s₁, -, hnew, rfl⟩ := probe_eq_ok h
  obtain ⟨hstate, hprogress⟩ := Session.fresh_new hnew
  exact ⟨hstate, hprogress⟩

end StorageCommands.EventLog
