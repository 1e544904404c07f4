import StorageCommands.Proofs.EventLog.Conformance

/-!
# What comes of a read of the log

A read of the log goes by one header: that of the read that has been kept, or the one that its first command received
(`Session.headerOf`). The header decides whether the log is too long, at one of two places. A length beyond the limit of
the session is found with the header, and the read is given up (`Session.Exceeds`). A length that takes offsets, which
the controller does not know, is found when the rest is to be read, and the read is kept (`Session.Stuck`).

`perform_result` says this of every operation, whatever the device answers (`ReadResult`): the read fails for the length
of the log in these two cases and in no other, and a log that it gives has all the bytes that its header reports.
-/

namespace StorageCommands.EventLog

open Nvme

variable {σ α β : Type}

/-! ## Results that are not about the length -/

/-- The result does not say that the log is too long. -/
def Accepted (r : Except Error α) : Prop := ∀ len, r ≠ .error (.logTooLarge len)

theorem Accepted.error {e : Error} (h : Accepted (.error e : Except Error β)) : Accepted (.error e : Except Error α) :=
  fun len he => h len (congrArg Except.error (Except.error.inj he))

theorem Refused.accepted {s s' : Session} {status : StatusWord} {offset : Nat} {e : Error}
    (h : Refused s status offset e s') : Accepted (.error e : Except Error α) := by
  cases h with
  | noContext _ => exact nofun
  | failed _ => exact nofun

theorem getLog_accepted (t : Transport σ) (action : ContextAction) (offset len : Nat) (d : Dialogue σ) :
    Ensures (getLog t action offset len) d fun r _ => Accepted r := by
  refine Ensures.getLog (fun _ _ => nofun) fun command _ result command' w _ w' _ => ?_
  cases result with
  | ok status => exact nofun
  | error e => exact nofun

/-- A read in chunks has room for every length. -/
theorem readChunks_accepted (t : Transport σ) {chunkSize : Nat} (pos : 0 < chunkSize) (p : Progress) (d : Dialogue σ) :
    Ensures (readChunks t chunkSize pos p) d fun r _ => Accepted r := by
  refine Ensures.mono (@readChunks_ensures σ t chunkSize pos (fun _ _ => True)
    (fun e _ => Accepted (.error e : Except Error Progress)) (fun q d₁ _ _ => ?_) p d trivial) fun r d' hr => ?_
  · refine ⟨_, getLog_accepted t .read q.offset (q.chunkLength chunkSize) d₁, ?_, ?_, ?_⟩
    · exact fun e _ h => h.error
    · exact fun status _ _ _ e s w hrefused _ => hrefused.accepted
    · exact fun _ _ _ _ _ _ _ _ => trivial
  · cases r with
    | ok q => exact fun _ he => by cases he
    | error e => exact hr

theorem establish_accepted (t : Transport σ) (d : Dialogue σ) :
    Ensures (establish t) d fun r _ => Accepted r :=
  establish_ensures (getLog_accepted t .establish 0 headerLength _) (fun _ _ h => h.error)
    (fun _ _ _ _ _ _ => nofun) fun _ _ _ _ _ _ _ => nofun

theorem release_accepted (t : Transport σ) (d : Dialogue σ) : Ensures (release t) d fun r _ => Accepted r := by
  refine release_ensures (getLog_accepted t .release 0 headerLength d) fun r d₁ h₁ w _ => ?_
  cases r with
  | ok status => exact nofun
  | error e => exact h₁.error

theorem checkContext_accepted (t : Transport σ) (d : Dialogue σ) :
    Ensures (checkContext t) d fun r _ => Accepted r :=
  checkContext_ensures (getLog_accepted t .read 0 headerLength d) (fun _ _ h => h.error) fun _ _ _ _ _ => nofun

/-! ## Lengths -/

/-- The length of the log, reported or rounded, is beyond the limit of the session. -/
def Session.Exceeds (s : Session) (h : Header) (len : Nat) : Prop :=
  h.alignedLength = none ∧ len = h.totalLogLength.toNat ∨ h.alignedLength = some len ∧ s.maxLogLength < len

/-- The length of the log is within the limit, but more than one transfer holds, and the controller takes no offsets. -/
structure Session.Stuck (s : Session) (h : Header) (len : Nat) : Prop where
  total : h.alignedLength = some len
  bounded : len ≤ s.maxLogLength
  extended : s.extended = false
  long : maxShortTransfer < len

namespace Session

variable {s : Session} {h : Header} {len len' : Nat}

theorem Exceeds.unique (he : s.Exceeds h len) (he' : s.Exceeds h len') : len = len' := by
  rcases he with ⟨hnone, rfl⟩ | ⟨hsome, -⟩ <;> rcases he' with ⟨hnone', rfl⟩ | ⟨hsome', -⟩
  · rfl
  · cases hnone.symm.trans hsome'
  · cases hnone'.symm.trans hsome
  · exact Option.some.inj (hsome.symm.trans hsome')

theorem Exceeds.not_stuck (he : s.Exceeds h len) : ¬ s.Stuck h len' := by
  rintro ⟨htotal, hbounded, -, -⟩
  rcases he with ⟨hnone, -⟩ | ⟨hsome, hlt⟩
  · cases hnone.symm.trans htotal
  · cases hsome.symm.trans htotal
    exact absurd hlt (Nat.not_lt.2 hbounded)

end Session

/-- A log that is being read is within the limit. -/
theorem Progress.Sound.not_exceeds {s : Session} {p : Progress} {len : Nat} (h : p.Sound s.maxLogLength) :
    ¬ s.Exceeds p.header len := by
  rintro (⟨hnone, -⟩ | ⟨hsome, hlt⟩)
  · cases hnone.symm.trans h.total
  · cases hsome.symm.trans h.total
    exact absurd hlt (Nat.not_lt.2 h.bounded)

/-- The header that a read of the log goes by: that of the read that has been kept, or the one that the first command
received. -/
def Session.headerOf (s : Session) (es : List Exchange) : Option Header :=
  match s.progress with
  | some p => some p.header
  | none => es.head?.bind fun e => if e.succeeded then (Header.decode e.received).toOption else none

theorem Session.headerOf_of_some {s : Session} {p : Progress} (hp : s.progress = some p) (es : List Exchange) :
    s.headerOf es = some p.header := by
  rw [headerOf, hp]

theorem Session.headerOf_cons {s : Session} {e : Exchange} {es : List Exchange} {header : Header}
    (hp : s.progress = none) :
    s.headerOf (e :: es) = some header ↔ e.succeeded = true ∧ Header.decode e.received = .ok header := by
  rw [headerOf, hp]
  cases hs : e.succeeded with
  | false => simp [hs]
  | true => cases hd : Header.decode e.received <;> simp [hs, hd, Except.toOption]

/-- What the result of a read of the log says of the length of the log, and the read that is kept. -/
structure ReadResult (s : Session) (es : List Exchange) (r : Except Error Log) (kept : Option Progress) : Prop where
  exceeds : ∀ header ∈ s.headerOf es, ∀ len, s.Exceeds header len → r = .error (.logTooLarge len) ∧ kept = none
  stuck : ∀ header ∈ s.headerOf es, ∀ len, s.Stuck header len →
    r = .error (.logTooLarge len) ∧ ∃ p ∈ kept, p.header = header ∧ p.total = len
  rejected : ∀ len, r = .error (.logTooLarge len) → ∃ header ∈ s.headerOf es, s.Exceeds header len ∨ s.Stuck header len
  whole : ∀ log, r = .ok log → log.bytes.length = log.header.totalLogLength.toNat

/-! ## Reading the header -/

/-- Why a read ends with its header. -/
inductive Unread (s : Session) (e : Exchange) : Error → Prop
  | exceeding {header : Header} {len : Nat} (hs : e.succeeded = true) (hh : Header.decode e.received = .ok header)
      (hl : s.Exceeds header len) : Unread s e (.logTooLarge len)
  | noHeader {err : Error} (ha : Accepted (.error err : Except Error Log))
      (hh : e.succeeded = true → ∃ cause, Header.decode e.received = .error cause) : Unread s e err

theorem Unread.readResult {s : Session} {e : Exchange} {err : Error} (h : Unread s e err) (hp : s.progress = none) :
    ReadResult s [e] (.error err) none := by
  cases h with
  | @exceeding header len hs hh hl =>
    have hof : s.headerOf [e] = some header := (Session.headerOf_cons hp).2 ⟨hs, hh⟩
    refine ⟨fun header' hheader len' hl' => ?_, fun header' hheader len' hstuck => ?_, fun len' hlen => ?_, nofun⟩
    · cases Option.mem_unique hheader hof
      rw [hl.unique hl']
      exact ⟨rfl, rfl⟩
    · cases Option.mem_unique hheader hof
      exact (hl.not_stuck hstuck).elim
    · cases hlen
      exact ⟨header, hof, Or.inl hl⟩
  | noHeader ha hh =>
    have hnone : ∀ header ∈ s.headerOf [e], False := by
      intro header hheader
      obtain ⟨hs, hdecode⟩ := (Session.headerOf_cons hp).1 hheader
      obtain ⟨cause, hcause⟩ := hh hs
      cases hcause.symm.trans hdecode
    exact ⟨fun header hheader => (hnone header hheader).elim, fun header hheader => (hnone header hheader).elim,
      fun len hlen => (ha len hlen).elim, nofun⟩

/-- **A read of the header that begins no read.** -/
theorem readHeader_unread (t : Transport σ) {d : Dialogue (Recorded σ)} (hp : d.session.progress = none) :
    Ensures (readHeader t.recording) d fun r d' => ∀ err, r = .error err →
      ∃ e, d'.exchanges = d.exchanges ++ [e] ∧ Unread d.session e err ∧ d'.session.progress = none := by
  have hsent := Ensures.and (getLog_sent t .read (by decide) rfl (by decide) rfl (by decide) d)
    (getLog_accepted t.recording .read 0 headerLength d)
  refine readHeader_ensures hsent ?_ ?_ ?_
  · rintro e d₁ ⟨h₁, ha⟩ err herr
    cases herr
    obtain ⟨x, hrecord, -, hstatus, -⟩ := h₁.exchange
    refine ⟨x, hrecord, .noHeader ha.error fun hs => ?_, h₁.progress.trans hp⟩
    cases (Exchange.succeeded_of_none hstatus).symm.trans hs
  · rintro status d₁ ⟨h₁, -⟩ hfail e s w hrefused hw err herr
    cases herr
    obtain ⟨-, hkept, x, hrecord, -, hx⟩ := h₁.failed_of_refused hfail hrefused hw
    refine ⟨x, hrecord, .noHeader hrefused.accepted fun hs => ?_, ?_⟩
    · cases hx.symm.trans hs
    · rwa [hp, or_self] at hkept
  · rintro status d₁ ⟨h₁, -⟩ hok r s w hread hw err rfl
    obtain ⟨x, hrecord, -, hsucceeded, hbytes, -⟩ := h₁.succeeded hok
    rw [hbytes] at hread
    have hnone : (d₁.session.believing .established).progress = none := h₁.progress.trans hp
    have hlimit : (d₁.session.believing .established).maxLogLength = d.session.maxLogLength := h₁.setup.maxLogLength
    have hrecord' : w.device.exchanges = d.exchanges ++ [x] := (congrArg Recorded.exchanges hw).trans hrecord
    cases hread with
    | undecodable hdecode => exact ⟨x, hrecord', .noHeader nofun fun _ => ⟨_, hdecode⟩, hnone⟩
    | tooLong hdecode hlong =>
      rw [hlimit] at hlong
      exact ⟨x, hrecord', .exceeding hsucceeded hdecode hlong, hnone⟩

/-! ## Reading the rest -/

/-- What comes of reading the rest of a log. -/
structure RestResult (d : Dialogue σ) (p : Progress) (r : Except Error Progress) (d' : Dialogue σ) : Prop where
  long : d.session.extended = false → maxShortTransfer < p.total → r = .error (.logTooLarge p.total) ∧ d' = d
  rejected : ∀ len, r = .error (.logTooLarge len) →
    d.session.extended = false ∧ maxShortTransfer < p.total ∧ len = p.total
  whole : ∀ q, r = .ok q → q.header = p.header ∧ q.data.length = p.total

namespace RestResult

variable {d d' : Dialogue σ} {p : Progress}

/-- The rest of a log that is not too long fails for another reason. -/
theorem of_error (hfit : d.session.extended = true ∨ p.total ≤ maxShortTransfer) {e : Error}
    (ha : Accepted (.error e : Except Error Progress)) : RestResult d p (.error e) d' := by
  refine ⟨fun hx hlong => ?_, fun len he => (ha len he).elim, nofun⟩
  rcases hfit with hx' | hle
  · cases hx.symm.trans hx'
  · omega

/-- All of the log has been read. -/
theorem of_ok (hfit : d.session.extended = true ∨ p.total ≤ maxShortTransfer) {q : Progress}
    (hheader : q.header = p.header) (hdata : q.data.length = p.total) : RestResult d p (.ok q) d' := by
  refine ⟨fun hx hlong => ?_, nofun, fun q' hq => by cases hq; exact ⟨hheader, hdata⟩⟩
  rcases hfit with hx' | hle
  · cases hx.symm.trans hx'
  · omega

variable {s : Session} {es : List Exchange}

/-- The rest was not read: the read is kept if the log is too long for one transfer. -/
theorem failed {e : Error} (h : RestResult d p (.error e) d') (hs : p.Sound s.maxLogLength)
    (hx : d.session.extended = s.extended) (hp : d.session.progress = some p) (hof : s.headerOf es = some p.header) :
    ReadResult s es (.error e) d'.session.progress := by
  refine ⟨fun header hheader len hl => ?_, fun header hheader len hstuck => ?_, fun len he => ?_, nofun⟩
  · cases Option.mem_unique hheader hof
    exact (hs.not_exceeds hl).elim
  · cases Option.mem_unique hheader hof
    obtain ⟨htotal, -, hshort, hlong⟩ := hstuck
    cases htotal.symm.trans hs.total
    obtain ⟨he, rfl⟩ := h.long (hx.trans hshort) hlong
    exact ⟨congrArg Except.error (Except.error.inj he), p, hp, rfl, rfl⟩
  · obtain ⟨hshort, hlong, rfl⟩ := h.rejected len (congrArg Except.error (Except.error.inj he))
    exact ⟨p.header, hof, Or.inr ⟨hs.total, hs.bounded, hx ▸ hshort, hlong⟩⟩

/-- The rest was read: the log has all bytes that its header reports. -/
theorem finished {q : Progress} (h : RestResult d p (.ok q) d') (hs : p.Sound s.maxLogLength)
    (hx : d.session.extended = s.extended) (hof : s.headerOf es = some p.header) (kept : Option Progress) :
    ReadResult s es (.ok ⟨q.header, q.data.take q.header.totalLogLength.toNat⟩) kept := by
  refine ⟨fun header hheader len hl => ?_, fun header hheader len hstuck => ?_, nofun, fun log hlog => ?_⟩
  · cases Option.mem_unique hheader hof
    exact (hs.not_exceeds hl).elim
  · cases Option.mem_unique hheader hof
    obtain ⟨htotal, -, hshort, hlong⟩ := hstuck
    cases htotal.symm.trans hs.total
    cases (h.long (hx.trans hshort) hlong).1
  · cases hlog
    obtain ⟨hheader, hdata⟩ := h.whole q rfl
    dsimp only
    rw [List.length_take, hdata, hheader]
    exact Nat.min_eq_left (alignedLength_bounds hs.total).1

end RestResult

/-- Reading the rest in one transfer. -/
theorem readWhole_result (t : Transport σ) {d : Dialogue (Recorded σ)} {p : Progress} {maxLogLength : Nat}
    (hs : p.Sound maxLogLength) (hshort : d.session.extended = false)
    (hlt : p.offset = headerLength ∨ p.offset < p.total) :
    Ensures (readWhole t.recording p) d (RestResult d p) := by
  have hdone : p.total ≤ p.offset → p.total ≤ maxShortTransfer := by
    intro hle
    have hheader : headerLength ≤ maxShortTransfer := by decide
    omega
  by_cases hle : p.total ≤ maxShortTransfer
  · have hmod := alignedLength_mod hs.total
    have hbounds := (alignedLength_bounds hs.total).2.1
    have hne : p.total ≠ 0 := by
      rw [headerLength] at hbounds
      omega
    have hsent := Ensures.and (getLog_sent t .read (by decide) rfl hne hmod (Nat.le_trans hle (by decide)) d)
      (getLog_accepted t.recording .read 0 p.total d)
    refine readWhole_ensures hsent ?_ ?_ ?_ ?_ ?_
    · intro hge
      exact .of_ok (Or.inr hle) rfl (hs.data.trans (Nat.le_antisymm hs.within hge))
    · intro _ hlong
      omega
    · rintro - e d₁ ⟨-, ha⟩
      exact .of_error (Or.inr hle) ha.error
    · rintro - status d₁ - - e s w hrefused -
      exact .of_error (Or.inr hle) hrefused.accepted
    · rintro - status d₁ ⟨h₁, -⟩ hok w -
      obtain ⟨x, -, -, -, hbytes, hlength⟩ := h₁.succeeded hok
      exact .of_ok (Or.inr hle) rfl ((congrArg List.length hbytes).trans hlength)
  · have hlong := Nat.lt_of_not_le hle
    unfold readWhole
    rw [if_neg fun hge => hle (hdone hge), if_pos hlong]
    refine .seq (.throw ⟨fun _ _ => ⟨rfl, rfl⟩, fun len he => ?_, fun _ hq => by cases hq⟩)
    cases he
    exact ⟨hshort, hlong, rfl⟩

/-- **Reading the rest of a log.** -/
theorem readRest_result (t : Transport σ) {d : Dialogue (Recorded σ)} {p : Progress}
    (hp : d.session.progress = some p) (hs : p.Sound d.session.maxLogLength)
    (hlt : p.offset = headerLength ∨ p.offset < p.total) :
    Ensures (if d.session.extended then readChunks t.recording d.session.config.chunkSize d.session.chunkSize_pos p
      else readWhole t.recording p) d (RestResult d p) := by
  refine readRest_ensures (fun hx => ?_) fun hx => readWhole_result t hs hx hlt
  refine (Ensures.and (readChunks_goes t hx hp hs) (readChunks_accepted t.recording _ p d)).mono fun r d' hr => ?_
  cases r with
  | error e => exact .of_error (Or.inl hx) hr.2
  | ok q =>
    obtain ⟨⟨es, hq, hdone⟩, -⟩ := hr
    exact .of_ok (Or.inl hx) hq.header (hq.sound.data.trans hdone)

/-! ## Reading the log -/

/-- What reading the log puts on the transport, and what comes of it. -/
structure LogRead (s : Session) (es : List Exchange) (r : Except Error Log) (kept : Option Progress) : Prop where
  reads : LogReads s es r kept
  result : ReadResult s es r kept

theorem ReadResult.of_sameSetup {s s' : Session} (hs : s.SameSetup s') (hp : s'.progress = s.progress)
    {es : List Exchange} {r : Except Error Log} {kept : Option Progress} (h : ReadResult s' es r kept) :
    ReadResult s es r kept := by
  have hof : s'.headerOf es = s.headerOf es := by rw [Session.headerOf, Session.headerOf, hp]
  have hexceeds : ∀ header len, s'.Exceeds header len ↔ s.Exceeds header len := fun header len => by
    rw [Session.Exceeds, Session.Exceeds, hs.maxLogLength]
  have hstuck : ∀ header len, s'.Stuck header len ↔ s.Stuck header len := fun header len =>
    ⟨fun ⟨ht, hb, hx, hl⟩ => ⟨ht, hs.maxLogLength ▸ hb, hs.extended ▸ hx, hl⟩,
      fun ⟨ht, hb, hx, hl⟩ => ⟨ht, hs.maxLogLength.symm ▸ hb, hs.extended.symm ▸ hx, hl⟩⟩
  obtain ⟨he, hst, hr, hw⟩ := h
  simp only [hof, hexceeds, hstuck] at he hst hr
  exact ⟨he, hst, hr, hw⟩

theorem LogRead.of_sameSetup {s s' : Session} (hs : s.SameSetup s') (hp : s'.progress = s.progress)
    {es : List Exchange} {r : Except Error Log} {kept : Option Progress} (h : LogRead s' es r kept) :
    LogRead s es r kept :=
  ⟨h.reads.of_sameSetup hs hp, h.result.of_sameSetup hs hp⟩

/-- Reading the rest adds to the record. -/
theorem Finishes.record {d d' : Dialogue (Recorded σ)} {p : Progress} {r : Except Error Progress}
    (h : Finishes d p r d') : ∃ es, d'.exchanges = d.exchanges ++ es := by
  cases r with
  | ok q =>
    obtain ⟨-, -, es, hrecord, -⟩ := h
    exact ⟨es, hrecord⟩
  | error e =>
    obtain ⟨⟨es, hrecord, -⟩, -, -⟩ := h
    exact ⟨es, hrecord⟩

/-- The exchanges of a dialogue that came from another one have the property, if they have it whatever they are. -/
theorem Leaves.and {d d' : Dialogue (Recorded σ)} {property property' : List Exchange → Prop}
    (h : Leaves d d' property) (h' : ∃ es, d'.exchanges = d.exchanges ++ es ∧ property' es) :
    Leaves d d' fun es => property es ∧ property' es := by
  obtain ⟨⟨es, hrecord, hes⟩, hsetup, hsound⟩ := h
  obtain ⟨es', hrecord', hes'⟩ := h'
  cases List.append_cancel_left (hrecord.symm.trans hrecord')
  exact ⟨⟨es, hrecord, hes, hes'⟩, hsetup, hsound⟩

/-- The result of a read that goes on. -/
theorem readLogUnchecked_resumed (t : Transport σ) {d : Dialogue (Recorded σ)} (hs : d.session.Sound) {p : Progress}
    (hp : d.session.progress = some p) : Ensures (readLogUnchecked t.recording) d fun r d' =>
      ∀ es, ReadResult d.session es r d'.session.progress := by
  obtain ⟨hsound, hlt⟩ := hs p hp
  refine readLogUnchecked_ensures (fun r d' => r = .ok p ∧ d' = d) (RestResult d p) ?_ ?_ ?_ ?_ ?_ ?_
  · intro p' hp'
    cases hp.symm.trans hp'
    exact ⟨rfl, rfl⟩
  · intro hnone
    cases hp.symm.trans hnone
  · rintro p' d₁ ⟨hp', rfl⟩
    cases hp'
    exact readRest_result t hp hsound (Or.inr hlt)
  · rintro e d₁ ⟨he, -⟩
    cases he
  · intro e d₁ h₁ es
    exact h₁.failed hsound rfl hp (Session.headerOf_of_some hp es)
  · intro q d₁ h₁ w _ es
    exact h₁.finished hsound rfl (Session.headerOf_of_some hp es) _

/-- The result of a read that begins. -/
theorem readLogUnchecked_begun (t : Transport σ) {d : Dialogue (Recorded σ)} (hp : d.session.progress = none) :
    Ensures (readLogUnchecked t.recording) d fun r d' =>
      ∃ es, d'.exchanges = d.exchanges ++ es ∧ ReadResult d.session es r d'.session.progress := by
  refine readLogUnchecked_ensures
    (fun r d₁ => Begins d r d₁ ∧ ∀ err, r = .error err →
      ∃ e, d₁.exchanges = d.exchanges ++ [e] ∧ Unread d.session e err ∧ d₁.session.progress = none)
    (fun r d₂ => ∃ p d₁, Begins d (.ok p) d₁ ∧ Finishes d₁ p r d₂ ∧ RestResult d₁ p r d₂) ?_ ?_ ?_ ?_ ?_ ?_
  · intro p hp'
    cases hp.symm.trans hp'
  · exact fun _ => Ensures.and (readHeader_begins t hp) (readHeader_unread t hp)
  · rintro p d₁ ⟨h₁, -⟩
    have hrest := readRest_result t h₁.1 h₁.2.1 (Or.inl h₁.2.2.1)
    exact (Ensures.and (readRest_finishes t h₁.1 h₁.2.1) hrest).mono fun r d₂ h₂ => ⟨p, d₁, h₁, h₂⟩
  · rintro err d₁ ⟨-, h₁⟩
    obtain ⟨e, hrecord, hunread, hnone⟩ := h₁ err rfl
    rw [hnone]
    exact ⟨[e], hrecord, hunread.readResult hp⟩
  · rintro err d₂ ⟨p, d₁, h₁, hfinishes, hresult⟩
    obtain ⟨hkept, hsound, -, hsetup, e, hrecord, -, hsucceeded, hdecode⟩ := h₁
    obtain ⟨es, hrecord'⟩ := hfinishes.record
    rw [hsetup.maxLogLength] at hsound
    refine ⟨e :: es, by rw [hrecord', hrecord, List.append_assoc, List.singleton_append], ?_⟩
    exact hresult.failed hsound hsetup.extended hkept ((Session.headerOf_cons hp).2 ⟨hsucceeded, hdecode⟩)
  · rintro q d₂ ⟨p, d₁, h₁, hfinishes, hresult⟩ w hw
    obtain ⟨-, hsound, -, hsetup, e, hrecord, -, hsucceeded, hdecode⟩ := h₁
    obtain ⟨es, hrecord'⟩ := hfinishes.record
    rw [hsetup.maxLogLength] at hsound
    refine ⟨e :: es, ?_, ?_⟩
    · rw [Dialogue.exchanges, hw, ← Dialogue.exchanges, hrecord', hrecord, List.append_assoc, List.singleton_append]
    · exact hresult.finished hsound hsetup.extended ((Session.headerOf_cons hp).2 ⟨hsucceeded, hdecode⟩) _

/-- **Reading the log.** -/
theorem readLogUnchecked_result (t : Transport σ) {d : Dialogue (Recorded σ)} (hs : d.session.Sound) :
    Ensures (readLogUnchecked t.recording) d fun r d' =>
      Leaves d d' fun es => LogRead d.session es r d'.session.progress := by
  have hresult : Ensures (readLogUnchecked t.recording) d fun r d' =>
      Leaves d d' fun es =>
        LogReads d.session es r d'.session.progress ∧ ReadResult d.session es r d'.session.progress := by
    cases hp : d.session.progress with
    | none =>
      refine (Ensures.and (readLogUnchecked_leaves t hs) (readLogUnchecked_begun t hp)).mono fun r d' h => ?_
      exact h.1.and h.2
    | some p =>
      refine (Ensures.and (readLogUnchecked_leaves t hs) (readLogUnchecked_resumed t hs hp)).mono fun r d' h => ?_
      exact h.1.mono fun es hes => ⟨hes, h.2 es⟩
  exact hresult.mono fun r d' h => h.mono fun _ hes => ⟨hes.1, hes.2⟩

/-! ## Operations -/

/-- The exchanges with which an operation reads the log. -/
def Operation.reading (op : Operation) (es : List Exchange) : List Exchange :=
  match op with
  | .readLog | .readLogUnchecked => es
  -- a context is made before, and given back at the end
  | .retrieve => es.tail.dropLast
  | .establish | .checkContext | .release => []

/-- Retrieving reads the log with all its commands but the first and the last. -/
theorem Operation.reading_retrieve (made : Exchange) (es : List Exchange) (released : Exchange) :
    Operation.retrieve.reading (made :: es ++ [released]) = es := by
  rw [Operation.reading, List.cons_append, List.tail_cons, List.dropLast_concat]

/-- The session that an operation reads the log with. -/
def Operation.reader (op : Operation) (s : Session) : Session :=
  if op = .retrieve then { s with progress := none } else s

theorem Operation.reader_of_ne {op : Operation} (h : op ≠ .retrieve) (s : Session) : op.reader s = s := if_neg h

/-- What comes of an operation: the log was not read and the result says nothing of its length, or the log was read. -/
inductive Operation.Result (op : Operation) (s : Session) (es : List Exchange) (r : Except Error (Option Log))
    (kept : Option Progress) : Prop
  | idle (hes : op.reading es = []) (hr : NoLog r) (ha : Accepted r) (hkept : kept = s.progress ∨ kept = none)
  | read {r' : Except Error Log} {kept' : Option Progress}
      (hop : op = .readLog ∨ op = .readLogUnchecked ∨ op = .retrieve)
      (hr : r = r'.map some) (h : LogRead (op.reader s) (op.reading es) r' kept')
      (hkept : if op = .retrieve then kept = none else kept = kept')

/-- An operation that gives no log. -/
theorem Ensures.accepted {x : SessionAction σ α} {d : Dialogue σ} (h : Ensures x d fun r _ => Accepted r) :
    Ensures (do let _ ← x; return none) d fun r _ => Accepted (r : Except Error (Option Log)) :=
  h.bind (fun _ _ _ => .pure nofun) fun _ _ h => h.error

/-- The log is not read without a context. -/
theorem readLog_result (t : Transport σ) {d : Dialogue (Recorded σ)} (hs : d.session.Sound) :
    Ensures (readLog t.recording) d fun r d' =>
      Leaves d d' fun es => Operation.readLog.Result d.session es (r.map some) d'.session.progress := by
  have hrefused : ∀ e : Error, Accepted (.error e : Except Error (Option Log)) →
      Leaves d d fun es => Operation.readLog.Result d.session es (.error e) d.session.progress := fun e ha =>
    ⟨⟨[], (List.append_nil _).symm, .idle rfl (noLog_error e) ha (Or.inl rfl)⟩, .refl _, hs⟩
  refine readLog_ensures (fun _ => ?_) (fun _ => hrefused _ nofun) fun _ => hrefused _ nofun
  exact (readLogUnchecked_result t hs).mono fun r d' h => h.mono fun es hes => .read (Or.inl rfl) rfl hes rfl

theorem retrieve_result (t : Transport σ) (d : Dialogue (Recorded σ)) :
    Ensures (retrieve t.recording) d fun r d' =>
      Leaves d d' fun es => Operation.retrieve.Result d.session es (r.map some) d'.session.progress := by
  refine retrieve_ensures (fun r d₂ => ∃ made reads kept, d₂.exchanges = d.exchanges ++ made :: reads
      ∧ d.session.SameSetup d₂.session ∧ LogRead { d.session with progress := none } reads r kept)
    (Ensures.and (establish_one t d) (establish_accepted t.recording d)) ?_ ?_ ?_
  · rintro d₁ ⟨⟨⟨hsetup, hprogress, made, hmade, -⟩, hstate⟩, -⟩
    have hestablished := hstate () rfl
    refine readLog_ensures (fun _ => ?_) (fun hs => ?_) fun hs => ?_
    · refine (readLogUnchecked_result t (.of_none hprogress)).mono fun r d₂ h₂ => ?_
      obtain ⟨⟨reads, hrecord, hread⟩, hsetup', -⟩ := h₂
      have hsetup'' : ({ d.session with progress := none } : Session).SameSetup d₁.session :=
        ⟨hsetup.config, hsetup.extended, hsetup.maxLogLength⟩
      refine ⟨made, reads, _, ?_, hsetup.trans hsetup', hread.of_sameSetup hsetup'' hprogress⟩
      rw [hrecord, hmade, List.append_assoc, List.singleton_append]
    · cases hestablished.symm.trans hs
    · cases hestablished.symm.trans hs
  · rintro e d₁ ⟨⟨⟨hsetup, hprogress, made, hmade, -⟩, -⟩, ha⟩
    exact ⟨⟨[made], hmade, .idle rfl (noLog_error e) ha.error (Or.inr hprogress)⟩, hsetup, .of_none hprogress⟩
  · rintro r d₂ ⟨made, reads, kept, hrecord, hsetup, hread⟩
    refine (release_one t d₂).mono fun _ d₃ h₃ w hw => ?_
    obtain ⟨hsetup', hprogress, released, hreleased, -⟩ := h₃
    have hall : w.device.exchanges = d.exchanges ++ (made :: reads ++ [released]) := by
      rw [← List.append_assoc, ← hrecord, ← hreleased]
      exact congrArg Recorded.exchanges hw
    have hread' : LogRead (Operation.retrieve.reader d.session)
        (Operation.retrieve.reading (made :: reads ++ [released])) r kept := by
      rw [Operation.reading_retrieve]
      exact hread
    exact ⟨⟨_, hall, .read (Or.inr (Or.inr rfl)) rfl hread' hprogress⟩, hsetup.trans hsetup', .of_none hprogress⟩

/-- **What comes of every operation**, whatever the device answers. -/
theorem perform_leaves_result (t : Transport σ) {d : Dialogue (Recorded σ)} (hs : d.session.Sound) (op : Operation) :
    Ensures (op.perform t.recording) d fun r d' =>
      Leaves d d' fun es => op.Result d.session es r d'.session.progress := by
  have hleaves := perform_leaves t hs op
  cases op with
  | establish =>
    refine (Ensures.and hleaves (establish_accepted t.recording d).accepted).mono fun r d' ⟨h, ha⟩ => ?_
    exact h.mono fun es hes => .idle rfl hes.1 ha (Or.inr hes.2.1)
  | readLog => exact .log (readLog_result t hs)
  | readLogUnchecked =>
    refine .log ((readLogUnchecked_result t hs).mono fun r d' h => ?_)
    exact h.mono fun es hes => .read (Or.inr (Or.inl rfl)) rfl hes rfl
  | checkContext =>
    refine (Ensures.and hleaves (checkContext_accepted t.recording d).accepted).mono fun r d' ⟨h, ha⟩ => ?_
    exact h.mono fun es hes => .idle rfl hes.1 ha hes.2.1
  | release =>
    refine (Ensures.and hleaves (release_accepted t.recording d).accepted).mono fun r d' ⟨h, ha⟩ => ?_
    exact h.mono fun es hes => .idle rfl hes.1 ha (Or.inr hes.2.1)
  | retrieve => exact .log (retrieve_result t d)

/-- **What comes of an operation** that runs with a device as it is. -/
theorem perform_result (t : Transport σ) {d : Dialogue σ} (hs : d.session.Sound) (op : Operation) :
    op.Result d.session (op.exchanges t d) ((op.perform t).run.run d).1
      ((op.perform t).run.run d).2.session.progress := by
  obtain ⟨⟨es, hrecord, hresult⟩, -, -⟩ := perform_leaves_result t (d := d.recorded) hs op
  have hes : op.exchanges t d = es := hrecord
  rw [perform_recording t op d, hes]
  exact hresult

end StorageCommands.EventLog
