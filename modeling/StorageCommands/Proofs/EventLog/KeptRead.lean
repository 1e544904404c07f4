import StorageCommands.Proofs.EventLog.Scripted
import StorageCommands.Proofs.EventLog.Snapshot
import StorageCommands.Proofs.Layout.Tables

/-!
# Reads that are kept

Whatever the device answers, a session keeps a read only while it does not believe that the context is gone, and the
bytes that it keeps begin with the header that it read (`Session.Keeps`). Both hold in every dialogue that operations
lead to (`Reaches.keeps`), and they say how a read ends (`Ended`): in which belief, and with which bytes.

- `finished_read_state`: after a read that gives a log, the session believes that there is a context, unless it went on
  with a kept read without knowing, when it still does not know.
- `resumed_read_stays_unknown`: this happens, although the device has just served the last read.
-/

namespace StorageCommands.EventLog

open Nvme

variable {σ : Type} {t : Transport σ} {d d' d'' : Dialogue σ} {p q : Progress}

/-! ## The bytes of a header -/

namespace Header

/-- Bytes with a header are as long as a header. -/
theorem le_length_of_decode {b : Bytes} {header : Header} (h : decode b = .ok header) :
    EventLog.headerLength ≤ b.length := by
  obtain ⟨v, hv, -⟩ := Layout.bind_eq_ok.1 h
  exact Layout.Table.stop_le_of_decode hv (f := (.supportedEventsBitmap, .bytes 480 32 .raw)) (by simp [headerTable])

/-- A header is read from the first bytes only. -/
theorem decode_take {b : Bytes} {n : Nat} (h : EventLog.headerLength ≤ n) : decode (b.take n) = decode b := by
  rw [decode, decode, Layout.Table.decode_take (show headerTable.minLength ≤ n from h)]

theorem decode_append {b : Bytes} {header : Header} (h : decode b = .ok header) (c : Bytes) :
    decode (b ++ c) = .ok header := by
  have htake : (b ++ c).take b.length = b := List.take_left' rfl
  rw [← decode_take (le_length_of_decode h), htake]
  exact h

end Header

/-! ## What is kept -/

/-- The bytes that were read begin with the header. -/
structure Progress.Opens (p : Progress) : Prop where
  header : Header.decode p.data = .ok p.header
  total : p.header.alignedLength = some p.total
  begun : headerLength ≤ p.offset

/-- A read that is kept begins with its header, and the session does not believe that its context is gone. -/
def Session.Keeps (s : Session) : Prop := ∀ p ∈ s.progress, p.Opens ∧ s.state ≠ .notEstablished

/-- The bytes of a log are cut from bytes that begin with its header. -/
def Log.Opens (log : Log) : Prop :=
  ∃ data, Header.decode data = .ok log.header ∧ log.bytes = data.take log.header.totalLogLength.toNat

theorem Log.Opens.decode {log : Log} (h : log.Opens) (hl : headerLength ≤ log.header.totalLogLength.toNat) :
    Header.decode log.bytes = .ok log.header := by
  obtain ⟨data, hdata, hbytes⟩ := h
  rw [hbytes, Header.decode_take hl]
  exact hdata

/-- A chunk is put after the header. -/
theorem Progress.Opens.advance (h : p.Opens) (len : Nat) (bytes : Bytes) : (p.advance len bytes).Opens :=
  ⟨Header.decode_append h.header _, h.total, Nat.le_trans h.begun (Nat.le_add_right ..)⟩

namespace Session.Keeps

variable {s : Session}

theorem of_none (h : s.progress = none) : s.Keeps := by
  intro p hp
  rw [h] at hp
  cases hp

theorem of_some (hp : s.progress = some p) (ho : p.Opens) (hs : s.state ≠ .notEstablished) : s.Keeps := by
  intro p' hp'
  cases hp.symm.trans hp'
  exact ⟨ho, hs⟩

/-- A read is given up with the belief in its context. -/
theorem believing (h : s.Keeps) (state : ContextState) : (s.believing state).Keeps := by
  by_cases hn : state = .notEstablished
  · exact .of_none (if_pos hn)
  · intro p hp
    exact ⟨(h p (hp.symm.trans (if_neg hn)).symm).1, hn⟩

end Session.Keeps

/-! ## Transfers -/

/-- What any transfer leaves of the session. -/
structure Carried (d : Dialogue σ) (r : Except Error StatusWord) (d' : Dialogue σ) : Prop where
  kept : d'.session = { d.session with buffer := d'.session.buffer, state := d'.session.state }
  state : match r with
    | .ok _ => d'.session.state = d.session.state
    | .error _ => d'.session.state = d.session.state ∨ d'.session.state = .unknown

theorem getLog_carried (t : Transport σ) (action : ContextAction) (offset len : Nat) (d : Dialogue σ) :
    Ensures (getLog t action offset len) d (Carried d) := by
  refine Ensures.getLog (fun _ _ => ⟨rfl, Or.inl rfl⟩) fun command _ result command' w _ w' _ => ?_
  cases result with
  | ok status => exact ⟨rfl, rfl⟩
  | error e => exact ⟨rfl, Or.inr rfl⟩

namespace Carried

variable {r : Except Error StatusWord}

theorem progress (h : Carried d r d') : d'.session.progress = d.session.progress := by rw [h.kept]

theorem extended (h : Carried d r d') : d'.session.extended = d.session.extended := by rw [h.kept]

theorem keeps (h : Carried d r d') (hd : d.session.Keeps) : d'.session.Keeps := by
  intro p hp
  obtain ⟨hopens, hstate⟩ := hd p (h.progress ▸ hp)
  refine ⟨hopens, ?_⟩
  have hs : d'.session.state = d.session.state ∨ d'.session.state = .unknown := by
    cases r with
    | ok status => exact Or.inl h.state
    | error e => exact h.state
  rcases hs with hs | hs
  · rw [hs]
    exact hstate
  · rw [hs]
    decide

end Carried

theorem Refused.keeps {s s' : Session} {status : StatusWord} {offset : Nat} {e : Error}
    (h : Refused s status offset e s') (hs : s.Keeps) : s'.Keeps := by
  cases h with
  | noContext _ => exact hs.believing .notEstablished
  | failed _ => exact hs

/-! ## Reading the log -/

/-- What a read of the header begins. -/
def Opened (d : Dialogue σ) (r : Except Error Progress) (d' : Dialogue σ) : Prop :=
  match r with
  | .ok p => p.Opens ∧ d'.session.progress = some p ∧ d'.session.state = .established
      ∧ d'.session.extended = d.session.extended
  | .error _ => d'.session.Keeps

theorem readHeader_opened (t : Transport σ) (hd : d.session.Keeps) : Ensures (readHeader t) d (Opened d) := by
  refine readHeader_ensures (getLog_carried t .read 0 headerLength d) ?_ ?_ ?_
  · intro e d₁ h₁
    exact h₁.keeps hd
  · intro status d₁ h₁ _ e s w hs _
    exact hs.keeps (h₁.keeps hd)
  · intro status d₁ h₁ _ r s w hread _
    have hkeeps := (h₁.keeps hd).believing .established
    cases hread with
    | undecodable _ => exact hkeeps
    | tooLong _ _ => exact hkeeps
    | begun hdecode htotal _ => exact ⟨⟨hdecode, htotal, Nat.le_refl _⟩, rfl, rfl, h₁.extended⟩

/-- What comes of reading the rest of a log. -/
def Completed (d : Dialogue σ) (p : Progress) (r : Except Error Progress) (d' : Dialogue σ) : Prop :=
  match r with
  | .ok q => q.header = p.header ∧ d'.session.state = d.session.state
      ∧ (d.session.extended = true ∨ p.total = headerLength → q.Opens)
  | .error _ => d'.session.Keeps

/-- The rest is read in chunks, each put after the one before it. -/
theorem readChunks_completed (t : Transport σ) {chunkSize : Nat} (pos : 0 < chunkSize) (ho : p.Opens)
    (hp : d.session.progress = some p) (hs : d.session.state ≠ .notEstablished) :
    Ensures (readChunks t chunkSize pos p) d (Completed d p) := by
  suffices hrest : Ensures (readChunks t chunkSize pos p) d fun r d' =>
      match r with
      | .ok q => (q.Opens ∧ q.header = p.header ∧ d'.session.progress = some q ∧ d'.session.state = d.session.state)
          ∧ q.total ≤ q.offset
      | .error _ => d'.session.Keeps by
    refine hrest.mono fun r d₁ h₁ => ?_
    cases r with
    | ok q => exact ⟨h₁.1.2.1, h₁.1.2.2.2, fun _ => h₁.1.1⟩
    | error e => exact h₁
  refine readChunks_ensures pos (fun q d₁ => q.Opens ∧ q.header = p.header ∧ d₁.session.progress = some q
    ∧ d₁.session.state = d.session.state) ?_ ⟨ho, rfl, hp, rfl⟩
  rintro q d₁ ⟨hopens, hheader, hkept, hstate⟩ -
  have hd₁ : d₁.session.Keeps := .of_some hkept hopens (hstate ▸ hs)
  refine ⟨_, getLog_carried t .read q.offset (q.chunkLength chunkSize) d₁, ?_, ?_, ?_⟩
  · intro e d₂ h₂
    exact h₂.keeps hd₁
  · intro status d₂ h₂ _ e s w hrefused _
    exact hrefused.keeps (h₂.keeps hd₁)
  · rintro status d₂ h₂ - w - next rfl
    exact ⟨hopens.advance _ _, hheader, rfl, h₂.state.trans hstate⟩

/-- The rest is read in one piece with the header, unless the header was all of it. -/
theorem readWhole_completed (t : Transport σ) (hx : d.session.extended = false) (ho : p.Opens)
    (hd : d.session.Keeps) : Ensures (readWhole t p) d (Completed d p) := by
  refine readWhole_ensures (getLog_carried t .read 0 p.total d) ?_ ?_ ?_ ?_ ?_
  · intro _
    exact ⟨rfl, rfl, fun _ => ho⟩
  · intro _ _
    exact hd
  · intro _ e d₁ h₁
    exact h₁.keeps hd
  · intro _ status d₁ h₁ _ e s w hs _
    exact hs.keeps (h₁.keeps hd)
  · intro hlt status d₁ h₁ _ w _
    refine ⟨rfl, h₁.state, fun hall => ?_⟩
    rcases hall with hall | hall
    · rw [hx] at hall
      cases hall
    · exact absurd (hall ▸ hlt) (Nat.not_lt.2 ho.begun)

/-- What the session believes after a read that gives a log. -/
def Session.stateAfterRead (s : Session) : ContextState := if s.progress.isSome then s.state else .established

/-- How a read of the log ends. -/
structure Ended (d : Dialogue σ) (r : Except Error Log) (d' : Dialogue σ) : Prop where
  keeps : d'.session.Keeps
  finished : ∀ log, r = .ok log → d'.session.state = d.session.stateAfterRead
    ∧ (d.session.extended = true ∨ log.header.alignedLength = some headerLength → log.Opens)

theorem readLogUnchecked_ended (t : Transport σ) (hd : d.session.Keeps) :
    Ensures (readLogUnchecked t) d (Ended d) := by
  refine readLogUnchecked_ensures
    (fun r d₁ => match r with
      | .ok p => p.Opens ∧ d₁.session.progress = some p ∧ d₁.session.state = d.session.stateAfterRead
          ∧ d₁.session.state ≠ .notEstablished ∧ d₁.session.extended = d.session.extended
      | .error _ => d₁.session.Keeps)
    (fun r d₂ => ∃ p d₁, p.header.alignedLength = some p.total ∧ d₁.session.state = d.session.stateAfterRead
      ∧ d₁.session.extended = d.session.extended ∧ Completed d₁ p r d₂) ?_ ?_ ?_ ?_ ?_ ?_
  · intro p hp
    obtain ⟨hopens, hstate⟩ := hd p hp
    refine ⟨hopens, hp, ?_, hstate, rfl⟩
    rw [Session.stateAfterRead, hp]
    rfl
  · intro hp
    refine (readHeader_opened t hd).mono fun r d₁ h₁ => ?_
    cases r with
    | error e => exact h₁
    | ok p =>
      obtain ⟨hopens, hkept, hstate, hx⟩ := h₁
      refine ⟨hopens, hkept, ?_, by rw [hstate]; decide, hx⟩
      rw [Session.stateAfterRead, hp]
      exact hstate
  · rintro p d₁ ⟨hopens, hkept, hstate, hne, hx⟩
    have hrest := readRest_ensures (fun _ => readChunks_completed t _ hopens hkept hne)
      fun hx₁ => readWhole_completed t hx₁ hopens (.of_some hkept hopens hne)
    exact hrest.mono fun r d₂ h₂ => ⟨p, d₁, hopens.total, hstate, hx, h₂⟩
  · intro e d₁ h₁
    exact ⟨h₁, fun _ hr => by cases hr⟩
  · rintro e d₂ ⟨p, d₁, -, -, -, h₂⟩
    exact ⟨h₂, fun _ hr => by cases hr⟩
  · rintro q d₂ ⟨p, d₁, htotal, hstate, hx, hheader, hsame, hopens⟩ w -
    refine ⟨.of_none rfl, fun log hlog => ?_⟩
    cases hlog
    refine ⟨hsame.trans hstate, fun hall => ⟨q.data, (hopens ?_).header, rfl⟩⟩
    rcases hall with hall | hall
    · exact Or.inl (hx.trans hall)
    · rw [hheader] at hall
      exact Or.inr (Option.some.inj (htotal.symm.trans hall))

/-- The checked read gives a log only if the session believes in the context. -/
theorem readLog_ended (t : Transport σ) (hd : d.session.Keeps) : Ensures (readLog t) d fun r d' =>
    Ended d r d' ∧ ∀ log, r = .ok log → d.session.state = .established := by
  have hrefused : ∀ e : Error, Ended d (.error e) d ∧ ∀ log : Log, .error e = Except.ok log →
      d.session.state = .established := fun e =>
    ⟨⟨hd, fun _ hr => by cases hr⟩, fun _ hr => by cases hr⟩
  exact readLog_ensures (fun hs => (readLogUnchecked_ended t hd).mono fun _ _ h => ⟨h, fun _ _ => hs⟩)
    (fun _ => hrefused _) fun _ => hrefused _

/-! ## The other operations -/

/-- Nothing is kept, and the session is set up as before. -/
theorem establish_drops (t : Transport σ) (d : Dialogue σ) : Ensures (establish t) d fun _ d' =>
    d'.session.Keeps ∧ d'.session.extended = d.session.extended := by
  refine establish_ensures (getLog_carried t .establish 0 headerLength _) ?_ ?_ ?_
  · intro e d₁ h₁
    exact ⟨.of_none h₁.progress, h₁.extended⟩
  · intro status d₁ h₁ _ w _
    exact ⟨.of_none h₁.progress, h₁.extended⟩
  · intro status d₁ h₁ _ _ w _
    exact ⟨.of_none h₁.progress, h₁.extended⟩

theorem release_drops (t : Transport σ) (d : Dialogue σ) : Ensures (release t) d fun _ d' => d'.session.Keeps :=
  release_ensures (getLog_carried t .release 0 headerLength d) fun _ _ _ _ _ => .of_none rfl

theorem checkContext_keeps (t : Transport σ) (hd : d.session.Keeps) :
    Ensures (checkContext t) d fun _ d' => d'.session.Keeps :=
  checkContext_ensures (getLog_carried t .read 0 headerLength d) (fun _ _ h₁ => h₁.keeps hd)
    fun _ _ h₁ _ _ => (h₁.keeps hd).believing _

/-- What an operation leaves behind, and the log that it gives. -/
structure Operation.Ended (op : Operation) (d : Dialogue σ) (r : Except Error (Option Log)) (d' : Dialogue σ) :
    Prop where
  keeps : d'.session.Keeps
  opens : ∀ log, r = .ok (some log) →
    d.session.extended = true ∨ log.header.alignedLength = some headerLength → log.Opens
  state : ∀ log, r = .ok (some log) → op ≠ .retrieve → d'.session.state = d.session.stateAfterRead
    ∧ (op = .readLog → d.session.state = .established)

/-- An operation that gives no log leaves no more behind than what is kept. -/
theorem Operation.Ended.quiet {op : Operation} {r : Except Error (Option Log)} (h : d'.session.Keeps) (hr : NoLog r) :
    op.Ended d r d' :=
  ⟨h, fun log hlog => (hr log hlog).elim, fun log hlog => (hr log hlog).elim⟩

theorem Ended.operation {op : Operation} {r : Except Error Log} (h : Ended d r d')
    (hop : op = .readLog → ∀ log, r = .ok log → d.session.state = .established) : op.Ended d (r.map some) d' := by
  cases r with
  | error e => exact .quiet h.keeps (noLog_error e)
  | ok log =>
    obtain ⟨hstate, hopens⟩ := h.finished log rfl
    refine ⟨h.keeps, fun log' hlog => ?_, fun _ _ _ => ⟨hstate, fun hread => hop hread log rfl⟩⟩
    cases hlog
    exact hopens

theorem retrieve_ended (t : Transport σ) (d : Dialogue σ) :
    Ensures (retrieve t) d fun r d' => Operation.retrieve.Ended d (r.map some) d' := by
  refine retrieve_ensures (fun r d' => Operation.retrieve.Ended d (r.map some) d') (establish_drops t d) ?_ ?_ ?_
  · rintro d₁ ⟨hkeeps, hx⟩
    refine (readLog_ended t hkeeps).mono fun r d₂ h₂ => ?_
    have hread : Operation.retrieve.Ended d₁ (r.map some) d₂ := h₂.1.operation fun hop => by cases hop
    exact ⟨hread.keeps, by rw [← hx]; exact hread.opens, fun _ _ hne => (hne rfl).elim⟩
  · rintro e d₁ ⟨hkeeps, -⟩
    exact .quiet hkeeps (noLog_error e)
  · intro r d₂ h₂
    exact (release_drops t d₂).mono fun _ d₃ h₃ w _ => ⟨h₃, h₂.opens, fun _ _ hne => (hne rfl).elim⟩

/-! ## Runs -/

/-- **Every operation keeps what a kept read is**, whatever the device answers. -/
theorem perform_ended (t : Transport σ) (hd : d.session.Keeps) (op : Operation) :
    Ensures (op.perform t) d (op.Ended d) := by
  cases op with
  | establish => exact .noLog ((establish_drops t d).mono fun _ _ h _ hr => .quiet h.1 hr)
  | readLog => exact .log ((readLog_ended t hd).mono fun _ _ h => h.1.operation fun _ => h.2)
  | readLogUnchecked => exact .log ((readLogUnchecked_ended t hd).mono fun _ _ h => h.operation fun hop => by cases hop)
  | checkContext => exact .noLog ((checkContext_keeps t hd).mono fun _ _ h _ hr => .quiet h hr)
  | release => exact .noLog ((release_drops t d).mono fun _ _ h _ hr => .quiet h hr)
  | retrieve => exact .log (retrieve_ended t d)

/-- **In every dialogue that operations lead to**, a read that is kept begins with its header, and the session does not
believe that its context is gone. -/
theorem Reaches.keeps {between : Dialogue σ → World σ → Prop} (h : Reaches t between d) : d.session.Keeps := by
  induction h with
  | new h _ => exact .of_none (Session.fresh_new h).progress
  | probe h => exact .of_none (fresh_probe h).progress
  | perform op _ ih => exact (perform_ended t ih op).keeps
  | idle _ _ ih => exact ih

/-! ## The belief after a read -/

/-- **A read that gives a log leaves the session believing in the context**, unless it went on with a kept read while
the session did not know. Then the session still does not know. -/
theorem finished_read_state {between : Dialogue σ → World σ → Prop} (h : Reaches t between d) {op : Operation}
    (hop : op = .readLog ∨ op = .readLogUnchecked) {log : Log}
    (hrun : (op.perform t).run.run d = (.ok (some log), d')) :
    d'.session.state = if op = .readLogUnchecked ∧ d.session.progress ≠ none ∧ d.session.state = .unknown
      then .unknown else .established := by
  have hended := perform_ended t h.keeps op
  unfold Ensures at hended
  rw [hrun] at hended
  obtain ⟨hstate, hread⟩ := hended.state log rfl (by rcases hop with rfl | rfl <;> decide)
  rw [hstate, Session.stateAfterRead]
  cases hp : d.session.progress with
  | none => simp
  | some p =>
    have hne := (h.keeps p hp).2
    rcases hop with rfl | rfl
    · simp [hread rfl]
    · cases hs : d.session.state with
      | notEstablished => exact (hne hs).elim
      | established => simp
      | unknown => simp

namespace Scripted

/-- After the read was cut off the session asked whether there is a context. -/
def reassured : Dialogue Scripted := ((Operation.checkContext.perform controller.transport).run.run interrupted).2

end Scripted

/-- A read that goes on after the session has asked ends in the belief that there is a context. -/
theorem finished_read_state_reassured : Scripted.reassured.session.progress ≠ none ∧ ∃ log d,
    (Operation.readLog.perform Scripted.controller.transport).run.run Scripted.reassured = (.ok (some log), d)
      ∧ d.session.state = .established := by
  have hread : Scripted.reassured.session.progress ≠ none
      ∧ ((Operation.readLog.perform Scripted.controller.transport).run.run
        Scripted.reassured).1.toOption.join.any (fun _ => true) = true := by decide +kernel
  obtain ⟨hkept, hlog⟩ := hread
  obtain ⟨log, d, hrun, -⟩ := Scripted.exists_log hlog
  have hreaches : Reaches Scripted.controller.transport (fun _ _ => False) Scripted.reassured :=
    .perform .checkContext (Scripted.reaches_interrupted _)
  exact ⟨hkept, log, d, hrun, finished_read_state hreaches (Or.inl rfl) hrun⟩

/-- **A kept read that goes on unasked leaves the session in doubt**, although the device has just served it. -/
theorem resumed_read_stays_unknown : ∃ d log d', Reaches Scripted.controller.transport (fun _ _ => False) d
    ∧ (Operation.readLogUnchecked.perform Scripted.controller.transport).run.run d = (.ok (some log), d')
    ∧ d'.session.state ≠ .established := by
  have hread : ((Operation.readLogUnchecked.perform Scripted.controller.transport).run.run
        Scripted.interrupted).1.toOption.join.any (fun _ => true) = true
      ∧ ((Operation.readLogUnchecked.perform Scripted.controller.transport).run.run
        Scripted.interrupted).2.session.state ≠ .established := by decide +kernel
  obtain ⟨hlog, hstate⟩ := hread
  obtain ⟨log, d, hrun, -⟩ := Scripted.exists_log hlog
  rw [hrun] at hstate
  exact ⟨Scripted.interrupted, log, d, Scripted.reaches_interrupted _, hrun, hstate⟩

end StorageCommands.EventLog
