import StorageCommands.EventLog.Session

/-!
# What the steps of a session leave behind

`Ensures x d post` says that the action `x`, begun in the dialogue `d`, ends with a result and in a dialogue that
satisfy `post`, whether it fails or not. A sequence is taken apart step by step with `Ensures.seq`, or with what is
known of its first part by `Ensures.bind`. Each step of a session has a rule of its own, in which the log plays no part:
what is to be shown has to hold in every world with the same device.

`Ensures.getLog` is the rule of the one step that talks to the device.
-/

namespace StorageCommands.EventLog

open Nvme Trace

variable {σ α β : Type}

/-- The action ends with a result and in a dialogue that satisfy the condition. -/
def Ensures (x : SessionAction σ α) (d : Dialogue σ) (post : Except Error α → Dialogue σ → Prop) : Prop :=
  post (x.run.run d).1 (x.run.run d).2

/-- What a first step has to end with so that the rest satisfies the condition. -/
abbrev Before (f : β → SessionAction σ α) (post : Except Error α → Dialogue σ → Prop) :
    Except Error β → Dialogue σ → Prop
  | .ok b, d => Ensures (f b) d post
  | .error e, d => post (.error e) d

/-- The session with another belief about the context. -/
def Session.believing (s : Session) (state : ContextState) : Session :=
  { s with state, progress := if state = .notEstablished then none else s.progress }

/-- The buffer for a transfer: the session's own, unless it is too short. -/
def Session.lend (s : Session) (len : Nat) : DataBuffer := if s.buffer.size < len then .zeroed len else s.buffer

namespace Ensures

variable {d : Dialogue σ} {post : Except Error α → Dialogue σ → Prop}

/-! ## Sequences -/

theorem mono {x : SessionAction σ α} {mid : Except Error α → Dialogue σ → Prop} (h : Ensures x d mid)
    (hm : ∀ r d', mid r d' → post r d') : Ensures x d post :=
  hm _ _ h

/-- Two conditions on the same run. -/
theorem and {x : SessionAction σ α} {post' : Except Error α → Dialogue σ → Prop} (h : Ensures x d post)
    (h' : Ensures x d post') : Ensures x d fun r d' => post r d' ∧ post' r d' :=
  ⟨h, h'⟩

/-- A sequence, by its first step. -/
theorem seq {x : SessionAction σ β} {f : β → SessionAction σ α} (h : Ensures x d (Before f post)) :
    Ensures (x >>= f) d post := by
  have hrun : (x >>= f).run.run d = (match (x.run.run d).1 with
      | .ok b => (f b).run.run (x.run.run d).2
      | .error e => (.error e, (x.run.run d).2)) := by
    change (ExceptT.bindCont f (x.run.run d).1).run (x.run.run d).2 = _
    cases (x.run.run d).1 <;> rfl
  unfold Ensures at h ⊢
  rw [hrun]
  generalize x.run.run d = p at h
  obtain ⟨r, d'⟩ := p
  cases r with
  | ok b => exact h
  | error e => exact h

/-- A sequence, by what is known of its first part. -/
theorem bind {x : SessionAction σ β} {f : β → SessionAction σ α} {mid : Except Error β → Dialogue σ → Prop}
    (h : Ensures x d mid) (hok : ∀ b d', mid (.ok b) d' → Ensures (f b) d' post)
    (herr : ∀ e d', mid (.error e) d' → post (.error e) d') : Ensures (x >>= f) d post := by
  refine seq (h.mono fun r d' hr => ?_)
  cases r with
  | ok b => exact hok b d' hr
  | error e => exact herr e d' hr

theorem pure {a : α} (h : post (.ok a) d) : Ensures (Pure.pure a) d post := h

theorem throw {e : Error} (h : post (.error e) d) : Ensures (throw e) d post := h

theorem get {post : Except Error (Dialogue σ) → Dialogue σ → Prop} (h : post (.ok d) d) : Ensures get d post := h

theorem modify {f : Dialogue σ → Dialogue σ} {post : Except Error PUnit → Dialogue σ → Prop}
    (h : post (.ok ⟨⟩) (f d)) : Ensures (modify f) d post := h

theorem attempt {x : SessionAction σ β} {post : Except Error (Except Error β) → Dialogue σ → Prop}
    (h : Ensures x d fun r d' => post (.ok r) d') : Ensures (attempt x) d post := h

/-! ## Steps of a session -/

theorem update {f : Session → Session} {post : Except Error Unit → Dialogue σ → Prop}
    (h : post (.ok ()) { d with session := f d.session }) : Ensures (update f) d post := h

theorem note {level : Level} {message : String} {values : List (String × String)}
    {post : Except Error Unit → Dialogue σ → Prop}
    (h : ∀ w, w.device = d.world.device → post (.ok ()) { d with world := w }) :
    Ensures (note level message values) d post :=
  h _ rfl

theorem dropProgress {post : Except Error Unit → Dialogue σ → Prop}
    (h : post (.ok ()) { d with session := { d.session with progress := none } }) :
    Ensures EventLog.dropProgress d post := h

theorem keepProgress {p : Progress} {post : Except Error Unit → Dialogue σ → Prop}
    (h : post (.ok ()) { d with session := { d.session with progress := some p } }) :
    Ensures (EventLog.keepProgress p) d post := h

theorem setState {state : ContextState} {post : Except Error Unit → Dialogue σ → Prop}
    (h : ∀ w, w.device = d.world.device → post (.ok ()) ⟨d.session.believing state, w⟩) :
    Ensures (EventLog.setState state) d post := by
  unfold EventLog.setState
  refine seq (get ?_)
  simp only [Before]
  by_cases hs : d.session.state ≠ state
  · rw [if_pos hs]
    exact seq (note fun w hw => update (h w hw))
  · rw [if_neg hs]
    exact update (h d.world rfl)

/-- **The step that talks to the device.** Either no command can be built, or the command is issued; if it is not
delivered, the session no longer knows whether there is a context. -/
theorem getLog {t : Transport σ} {action : ContextAction} {offset len : Nat}
    {post : Except Error StatusWord → Dialogue σ → Prop}
    (hbuild : ∀ e, d.session.command action offset len (d.session.lend len) = .error e →
      post (.error (.build e)) { d with session := { d.session with buffer := d.session.lend len } })
    (hissue : ∀ command, d.session.command action offset len (d.session.lend len) = .ok command →
      ∀ result command' w, issue t command d.world = (result, command', w) → ∀ w', w'.device = w.device →
        match result with
        | .ok status =>
          post (.ok status) ⟨{ d.session with buffer := command'.lentBuffer.getD (d.session.lend len) }, w'⟩
        | .error e =>
          post (.error (.transport e))
            ⟨{ d.session with
                buffer := command'.lentBuffer.getD (d.session.lend len)
                state := .unknown }, w'⟩) :
    Ensures (EventLog.getLog t action offset len) d post := by
  unfold EventLog.getLog
  refine seq (get (seq (update ?_)))
  cases hc : d.session.command action offset len (d.session.lend len) with
  | error e =>
    have hc' := hc
    unfold Session.lend at hc'
    simp only [hc', Before]
    exact throw (hbuild e hc)
  | ok command =>
    have hc' := hc
    unfold Session.lend at hc'
    simp only [hc', Before]
    refine seq (get ?_)
    rcases hi : issue t command d.world with ⟨result, command', w⟩
    have hpost := hissue command hc result command' w hi
    simp only [Before, hi]
    refine seq (modify ?_)
    cases result with
    | ok status => exact seq (note fun w' hw => pure (hpost w' hw))
    | error e => exact seq (setState fun w' hw => throw (hpost w' hw))

end Ensures

/-- A transfer alone neither begins a read nor gives it up. -/
theorem getLog_keeps_progress (t : Transport σ) (action : ContextAction) (offset len : Nat) (d : Dialogue σ) :
    Ensures (getLog t action offset len) d fun _ d' => d'.session.progress = d.session.progress := by
  refine Ensures.getLog (fun _ _ => rfl) fun command _ result command' w _ w' _ => ?_
  cases result with
  | ok status => rfl
  | error e => rfl

/-! ## Judging a transfer -/

/-- How a session gives up at a transfer that was not successful. -/
inductive Refused (s : Session) (status : StatusWord) (offset : Nat) : Error → Session → Prop
  | noContext (h : status.isSequenceError = true) : Refused s status offset .noContext (s.believing .notEstablished)
  | failed (h : status.isSequenceError = false) : Refused s status offset (.readFailed offset status) s

theorem checkRead_ensures (status : StatusWord) (offset : Nat) (d : Dialogue σ) :
    Ensures (checkRead status offset) d fun r d' => d'.world.device = d.world.device ∧
      match r with
      | .ok _ => status.isSuccess = true ∧ d'.session = d.session
      | .error e => status.isSuccess = false ∧ Refused d.session status offset e d'.session := by
  unfold checkRead
  cases hs : status.isSuccess with
  | true => exact Ensures.pure ⟨rfl, rfl, rfl⟩
  | false =>
    cases hq : status.isSequenceError with
    | true => exact .seq (.setState fun w hw => .seq (.throw ⟨hw, rfl, .noContext hq⟩))
    | false =>
      by_cases hb : status.bucket = .fatal
      · simp only [Bool.false_eq_true, if_false, if_pos hb]
        exact .seq (.note fun w hw => .throw ⟨hw, trivial, .failed hq⟩)
      · simp only [Bool.false_eq_true, if_false, if_neg hb]
        exact .seq (.note fun w hw => .throw ⟨hw, trivial, .failed hq⟩)

/-- A read that is judged, and then what follows a successful one. -/
theorem Ensures.judged {t : Transport σ} {offset len : Nat} {d : Dialogue σ} {rest : SessionAction σ α}
    {mid : Except Error StatusWord → Dialogue σ → Prop} {post : Except Error α → Dialogue σ → Prop}
    (h : Ensures (EventLog.getLog t .read offset len) d mid)
    (herr : ∀ e d', mid (.error e) d' → post (.error e) d')
    (hrefused : ∀ status d', mid (.ok status) d' → status.isSuccess = false → ∀ e s w,
      Refused d'.session status offset e s → w.device = d'.world.device → post (.error e) ⟨s, w⟩)
    (hok : ∀ status d', mid (.ok status) d' → status.isSuccess = true → ∀ w, w.device = d'.world.device →
      Ensures rest ⟨d'.session, w⟩ post) :
    Ensures (do
      let status ← EventLog.getLog t .read offset len
      checkRead status offset
      rest) d post := by
  refine h.bind (fun status d₁ h₁ => ?_) herr
  refine (checkRead_ensures status offset d₁).bind (fun _ d₂ h₂ => ?_) fun e d₂ h₂ => ?_
  · obtain ⟨s, w⟩ := d₂
    obtain ⟨hw, hs, rfl⟩ := h₂
    exact hok status d₁ h₁ hs w hw
  · exact hrefused status d₁ h₁ h₂.2.1 e d₂.session d₂.world h₂.2.2 h₂.1

/-! ## Reading the log -/

/-- What a session makes of the bytes of a header. -/
inductive HeaderRead (s : Session) (data : Bytes) : Except Error Progress → Session → Prop
  | undecodable {e : Layout.Error} (h : Header.decode data = .error e) : HeaderRead s data (.error (.header e)) s
  | tooLong {header : Header} {len : Nat} (h : Header.decode data = .ok header)
      (hl : header.alignedLength = none ∧ len = header.totalLogLength.toNat
        ∨ header.alignedLength = some len ∧ s.maxLogLength < len) :
      HeaderRead s data (.error (.logTooLarge len)) s
  | begun {header : Header} {total : Nat} (h : Header.decode data = .ok header)
      (ht : header.alignedLength = some total) (hl : total ≤ s.maxLogLength) :
      HeaderRead s data (.ok ⟨header, total, headerLength, data⟩)
        { s with progress := some ⟨header, total, headerLength, data⟩ }

/-- **Reading the header** judges the transfer and then the bytes. -/
theorem readHeader_ensures {t : Transport σ} {d : Dialogue σ} {mid : Except Error StatusWord → Dialogue σ → Prop}
    {post : Except Error Progress → Dialogue σ → Prop} (h : Ensures (getLog t .read 0 headerLength) d mid)
    (herr : ∀ e d', mid (.error e) d' → post (.error e) d')
    (hrefused : ∀ status d', mid (.ok status) d' → status.isSuccess = false → ∀ e s w,
      Refused d'.session status 0 e s → w.device = d'.world.device → post (.error e) ⟨s, w⟩)
    (hok : ∀ status d', mid (.ok status) d' → status.isSuccess = true → ∀ r s w,
      HeaderRead (d'.session.believing .established) (d'.session.buffer.bytes.take headerLength) r s →
      w.device = d'.world.device → post r ⟨s, w⟩) : Ensures (readHeader t) d post := by
  refine h.judged herr hrefused fun status d₁ h₁ hs w₁ hw₁ => ?_
  have hpost := hok status d₁ h₁ hs
  refine .seq (.setState fun w hw => .seq (.get ?_))
  have hw : w.device = d₁.world.device := hw.trans hw₁
  cases hdecode : Header.decode (d₁.session.buffer.bytes.take headerLength) with
  | error e =>
    simp only [Before, Session.believing, hdecode]
    exact .throw (hpost _ _ w (.undecodable hdecode) hw)
  | ok header =>
    simp only [Before, Session.believing, hdecode]
    cases htotal : header.alignedLength with
    | none =>
      exact .seq (.note fun w' hw' => .throw (hpost _ _ w' (.tooLong hdecode (Or.inl ⟨htotal, rfl⟩)) (hw'.trans hw)))
    | some total =>
      by_cases hl : d₁.session.maxLogLength < total
      · simp only [if_pos hl]
        exact .seq (.note fun w' hw' => .throw (hpost _ _ w' (.tooLong hdecode (Or.inr ⟨htotal, hl⟩)) (hw'.trans hw)))
      · simp only [if_neg hl]
        exact .seq (.note fun w' hw' => .seq (.keepProgress
          (.pure (hpost _ _ w' (.begun hdecode htotal (Nat.le_of_not_lt hl)) (hw'.trans hw)))))

/-- **Reading the whole log**, unless the header was all of it, takes one transfer, which must not be too long. -/
theorem readWhole_ensures {t : Transport σ} {p : Progress} {d : Dialogue σ}
    {mid : Except Error StatusWord → Dialogue σ → Prop} {post : Except Error Progress → Dialogue σ → Prop}
    (h : Ensures (getLog t .read 0 p.total) d mid)
    (hdone : p.total ≤ p.offset → post (.ok p) d)
    (hlong : p.offset < p.total → maxShortTransfer < p.total → post (.error (.logTooLarge p.total)) d)
    (herr : p.offset < p.total → ∀ e d', mid (.error e) d' → post (.error e) d')
    (hrefused : p.offset < p.total → ∀ status d', mid (.ok status) d' → status.isSuccess = false → ∀ e s w,
      Refused d'.session status 0 e s → w.device = d'.world.device → post (.error e) ⟨s, w⟩)
    (hok : p.offset < p.total → ∀ status d', mid (.ok status) d' → status.isSuccess = true → ∀ w,
      w.device = d'.world.device →
      post (.ok { p with offset := p.total, data := d'.session.buffer.bytes.take p.total }) ⟨d'.session, w⟩) :
    Ensures (readWhole t p) d post := by
  unfold readWhole
  by_cases hle : p.total ≤ p.offset
  · rw [if_pos hle]
    exact .pure (hdone hle)
  · have hlt := Nat.lt_of_not_le hle
    rw [if_neg hle]
    by_cases hl : maxShortTransfer < p.total
    · rw [if_pos hl]
      exact .seq (.throw (hlong hlt hl))
    · rw [if_neg hl]
      refine h.judged (herr hlt) (hrefused hlt) fun status d₁ h₁ hs w hw => ?_
      exact .seq (.get (.pure (hok hlt status d₁ h₁ hs w hw)))

/-- The length of the next chunk. -/
def Progress.chunkLength (p : Progress) (chunkSize : Nat) : Nat := wholeDwords (min (p.total - p.offset) chunkSize)

/-- The read after a chunk, given what the buffer holds. -/
def Progress.advance (p : Progress) (len : Nat) (bytes : Bytes) : Progress :=
  { p with
    offset := p.offset + min len (p.total - p.offset)
    data := p.data ++ bytes.take (min len (p.total - p.offset)) }

theorem le_wholeDwords (n : Nat) : n ≤ wholeDwords n := by
  unfold wholeDwords
  omega

/-- **Reading the chunks** keeps what every chunk keeps. -/
theorem readChunks_ensures {t : Transport σ} {chunkSize : Nat} (pos : 0 < chunkSize)
    (Inv : Progress → Dialogue σ → Prop) {Fail : Error → Dialogue σ → Prop}
    (hchunk : ∀ p d, Inv p d → p.offset < p.total → ∃ mid : Except Error StatusWord → Dialogue σ → Prop,
      Ensures (getLog t .read p.offset (p.chunkLength chunkSize)) d mid
      ∧ (∀ e d', mid (.error e) d' → Fail e d')
      ∧ (∀ status d', mid (.ok status) d' → status.isSuccess = false → ∀ e s w,
          Refused d'.session status p.offset e s → w.device = d'.world.device → Fail e ⟨s, w⟩)
      ∧ (∀ status d', mid (.ok status) d' → status.isSuccess = true → ∀ w, w.device = d'.world.device →
          ∀ next, next = p.advance (p.chunkLength chunkSize) d'.session.buffer.bytes →
          Inv next ⟨{ d'.session with progress := some next }, w⟩))
    {p : Progress} {d : Dialogue σ} (h : Inv p d) :
    Ensures (readChunks t chunkSize pos p) d fun r d' =>
      match r with
      | .ok p' => Inv p' d' ∧ p'.total ≤ p'.offset
      | .error e => Fail e d' := by
  induction hn : p.total - p.offset using Nat.strongRecOn generalizing p d with
  | ind n ih =>
    rw [readChunks]
    by_cases hlt : p.offset < p.total
    · rw [dif_pos hlt]
      obtain ⟨mid, hmid, herr, hrefused, hok⟩ := hchunk p d h hlt
      refine hmid.judged herr hrefused fun status d₁ h₁ hs w hw => ?_
      refine .seq (.get (.seq (.keepProgress (.seq (.note fun w' hw' => ?_)))))
      have hinv := hok status d₁ h₁ hs w' (hw'.trans hw) _ rfl
      refine ih _ ?_ hinv rfl
      have hlen := le_wholeDwords (min (p.total - p.offset) chunkSize)
      dsimp only
      omega
    · rw [dif_neg hlt]
      exact .pure ⟨h, Nat.le_of_not_lt hlt⟩

end StorageCommands.EventLog
