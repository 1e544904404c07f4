import StorageCommands.Proofs.EventLog.Snapshot
import StorageCommands.Proofs.EventLog.Transcript

/-!
# Every operation has its transcript

`operation_transcript`: in every dialogue that operations lead to, an operation puts on the transport what its
transcript says, whatever the device answers. It rests on what all operations keep: a read that is kept stands at a
whole dword before the end of its log, and holds the bytes before it (`Session.Sound`). So the next command has an
offset and a length in whole dwords, and there is such a command unless the chunk is longer than 2^34 bytes.

The operations run with a recording transport; what they leave on the record is `Leaves`.
-/

namespace StorageCommands.EventLog

open Nvme

variable {σ : Type}

/-! ## What operations keep -/

/-- A read stands at a whole dword of its log and holds the bytes before it. -/
structure Progress.Sound (p : Progress) (maxLogLength : Nat) : Prop where
  begun : headerLength ≤ p.offset
  aligned : p.offset % 4 = 0
  within : p.offset ≤ p.total
  total : p.header.alignedLength = some p.total
  bounded : p.total ≤ maxLogLength
  data : p.data.length = p.offset

/-- A read that is kept is unfinished. -/
def Session.Sound (s : Session) : Prop := ∀ p ∈ s.progress, p.Sound s.maxLogLength ∧ p.offset < p.total

theorem Session.Sound.of_none {s : Session} (h : s.progress = none) : s.Sound := by
  intro p hp
  rw [h] at hp
  cases hp

theorem Refused.setup {s s' : Session} {status : StatusWord} {offset : Nat} {e : Error}
    (h : Refused s status offset e s') : s.SameSetup s' := by
  cases h with
  | noContext => exact s.sameSetup_believing _
  | failed => exact .refl s

theorem alignedLength_mod {h : Header} {total : Nat} (ht : h.alignedLength = some total) : total % 4 = 0 := by
  simp only [Header.alignedLength, Option.ite_none_right_eq_some, Option.some.injEq] at ht
  obtain ⟨-, rfl⟩ := ht
  rw [lengthUnit]
  omega

/-- A chunk is as long as the chunk size, but for the last one. -/
theorem Progress.Sound.chunkLength_eq {p : Progress} {maxLogLength chunkSize : Nat} (h : p.Sound maxLogLength)
    (hc : chunkSize % 4 = 0) : p.chunkLength chunkSize = min chunkSize (p.total - p.offset) := by
  have ha := h.aligned
  have ht := alignedLength_mod h.total
  rw [chunkLength, wholeDwords]
  omega

/-- After a chunk a read stands at the end of the chunk. -/
theorem Progress.Sound.advance {p : Progress} {maxLogLength len : Nat} {bytes : Bytes} (h : p.Sound maxLogLength)
    (hmod : len % 4 = 0) (hlen : len ≤ p.total - p.offset) (hbytes : (bytes.take len).length = len) :
    (p.advance len bytes).Sound maxLogLength ∧ (p.advance len bytes).offset = p.offset + len := by
  have ha := h.aligned
  have hb := h.begun
  have hw := h.within
  rw [Progress.advance, Nat.min_eq_left hlen]
  refine ⟨⟨?_, ?_, ?_, h.total, h.bounded, ?_⟩, rfl⟩
  · dsimp only
    omega
  · dsimp only
    omega
  · dsimp only
    omega
  · rw [List.length_append, h.data, hbytes]

/-! ## Reading the rest -/

/-- A dialogue came from another one by exchanges with a property, and its session is sound. -/
structure Leaves (d d' : Dialogue (Recorded σ)) (property : List Exchange → Prop) : Prop where
  record : ∃ es, d'.exchanges = d.exchanges ++ es ∧ property es
  setup : d.session.SameSetup d'.session
  sound : d'.session.Sound

theorem Leaves.mono {d d' : Dialogue (Recorded σ)} {property property' : List Exchange → Prop}
    (h : Leaves d d' property) (hp : ∀ es, property es → property' es) : Leaves d d' property' := by
  obtain ⟨⟨es, hrecord, hes⟩, hsetup, hsound⟩ := h
  exact ⟨⟨es, hrecord, hp es hes⟩, hsetup, hsound⟩

namespace Sent

variable {action : ContextAction} {offset len : Nat} {d d' : Dialogue (Recorded σ)} {r : Except Error StatusWord}

theorem setup (h : Sent action offset len d r d') : d.session.SameSetup d'.session := by
  rw [h.kept]
  exact ⟨rfl, rfl, rfl⟩

theorem progress (h : Sent action offset len d r d') : d'.session.progress = d.session.progress := by
  rw [h.kept]

/-- A transfer that succeeded. -/
theorem succeeded {status : StatusWord} (h : Sent action offset len d (.ok status) d') (hs : status.isSuccess = true) :
    ∃ e, d'.exchanges = d.exchanges ++ [e] ∧ Requests e.command action offset len ∧ e.succeeded = true
      ∧ d'.session.buffer.bytes.take len = e.received ∧ e.received.length = len := by
  obtain ⟨e, hrecord, hrequests, hstatus, hbytes⟩ := h.exchange
  exact ⟨e, hrecord, hrequests, (Exchange.succeeded_of_status hstatus).trans hs, hbytes⟩

end Sent

/-- What a transfer leaves behind that failed, once it was judged. -/
structure Failed (action : ContextAction) (offset len : Nat) (d d' : Dialogue (Recorded σ)) : Prop where
  setup : d.session.SameSetup d'.session
  progress : d'.session.progress = d.session.progress ∨ d'.session.progress = none
  exchange : ∃ e, d'.exchanges = d.exchanges ++ [e] ∧ Requests e.command action offset len ∧ e.succeeded = false

namespace Sent

variable {action : ContextAction} {offset len : Nat} {d d' : Dialogue (Recorded σ)}

theorem failed_of_error {e : Error} (h : Sent action offset len d (.error e) d') : Failed action offset len d d' := by
  obtain ⟨x, hrecord, hrequests, hstatus, -⟩ := h.exchange
  exact ⟨h.setup, Or.inl h.progress, x, hrecord, hrequests, Exchange.succeeded_of_none hstatus⟩

theorem failed_of_refused {status : StatusWord} (h : Sent action offset len d (.ok status) d')
    (hs : status.isSuccess = false) {e : Error} {offset' : Nat} {s : Session} {w : World (Recorded σ)}
    (hrefused : Refused d'.session status offset' e s) (hw : w.device = d'.world.device) :
    Failed action offset len d ⟨s, w⟩ := by
  obtain ⟨x, hrecord, hrequests, hstatus, -⟩ := h.exchange
  have hkept := hrefused.progress
  rw [h.progress] at hkept
  exact ⟨h.setup.trans hrefused.setup, hkept, x, (congrArg Recorded.exchanges hw).trans hrecord, hrequests,
    (Exchange.succeeded_of_status hstatus).trans hs⟩

end Sent

/-- What comes of a read that stands at `p` when the rest of its log is read. -/
def Goes (d : Dialogue (Recorded σ)) (p : Progress) (r : Except Error Log) (d' : Dialogue (Recorded σ)) : Prop :=
  Leaves d d' fun es => ∃ stop, Rest d.session p.total p.offset es stop ∧ Ends p stop r d'.session.progress

/-- A read in chunks that stood at `p` in a dialogue stands at `q` in another one. -/
structure Continued (d : Dialogue (Recorded σ)) (p : Progress) (es : List Exchange) (q : Progress)
    (d' : Dialogue (Recorded σ)) : Prop where
  record : d'.exchanges = d.exchanges ++ es
  chunks : Chunks d.session.config.chunkSize p.total p.offset es q.offset
  header : q.header = p.header
  total : q.total = p.total
  sound : q.Sound d.session.maxLogLength
  kept : d'.session.progress = some q
  setup : d.session.SameSetup d'.session

namespace Continued

variable {d d' d'' : Dialogue (Recorded σ)} {p q : Progress} {es : List Exchange}

theorem refl (hp : d.session.progress = some p) (hs : p.Sound d.session.maxLogLength) : Continued d p [] p d :=
  ⟨(List.append_nil _).symm, .nil _, rfl, rfl, hs, hp, .refl _⟩

/-- A read that stops early is kept as it stands, or given up. -/
theorem stopped (h : Continued d p es q d') (hlt : q.offset < q.total) (es' : List Exchange)
    (hrecord : d''.exchanges = d'.exchanges ++ es') (hsetup : d'.session.SameSetup d''.session)
    (hkept : d''.session.progress = d'.session.progress ∨ d''.session.progress = none)
    (hrest : Rest d.session p.total p.offset (es ++ es') q.offset) (e : Error) : Goes d p (.error e) d'' := by
  have hsetup' := h.setup.trans hsetup
  rw [h.kept] at hkept
  refine ⟨⟨es ++ es', by rw [hrecord, h.record, List.append_assoc], q.offset, hrest, ?_⟩, hsetup', ?_⟩
  · refine .failed (by rw [← h.total]; exact hlt) fun p' hp' => ?_
    rcases hkept with hkept | hkept
    · cases hkept.symm.trans hp'
      exact ⟨h.header, h.total, rfl⟩
    · cases hkept.symm.trans hp'
  · rcases hkept with hkept | hkept
    · intro p' hp'
      cases hkept.symm.trans hp'
      rw [hsetup'.maxLogLength]
      exact ⟨h.sound, hlt⟩
    · exact .of_none hkept

/-- The next chunk has a positive number of whole dwords. -/
theorem length_chunk (h : Continued d p es q d') (hlt : q.offset < q.total) :
    q.chunkLength d.session.config.chunkSize = min d.session.config.chunkSize (p.total - q.offset)
      ∧ min d.session.config.chunkSize (p.total - q.offset) ≠ 0
      ∧ min d.session.config.chunkSize (p.total - q.offset) % 4 = 0 := by
  have hpos := d.session.chunkSize_pos
  have hdvd := d.session.chunkSize_dvd
  have ha := h.sound.aligned
  have ht := alignedLength_mod h.sound.total
  have htotal := h.total
  refine ⟨by rw [h.sound.chunkLength_eq hdvd, htotal], ?_, ?_⟩
  · omega
  · omega

/-- **The next chunk** continues the read. -/
theorem next (h : Continued d p es q d') (hlt : q.offset < q.total) {len : Nat}
    (hlen : len = min d.session.config.chunkSize (p.total - q.offset)) (hmod : len % 4 = 0) {status : StatusWord}
    (hsent : Sent .read q.offset len d' (.ok status) d'') (hok : status.isSuccess = true) {w : World (Recorded σ)}
    (hw : w.device = d''.world.device) :
    ∃ es', Continued d p es' (q.advance len d''.session.buffer.bytes)
      ⟨{ d''.session with progress := some (q.advance len d''.session.buffer.bytes) }, w⟩ := by
  obtain ⟨x, hrecord, hrequests, hsucceeded, hbytes, hlength⟩ := hsent.succeeded hok
  have hfit : len ≤ q.total - q.offset := by
    rw [hlen, h.total]
    exact Nat.min_le_right ..
  obtain ⟨hsound, hnext⟩ := h.sound.advance hmod hfit ((congrArg List.length hbytes).trans hlength)
  refine ⟨es ++ [x], ?_, ?_, h.header, h.total, hsound, rfl, (h.setup.trans hsent.setup).trans ⟨rfl, rfl, rfl⟩⟩
  · calc w.device.exchanges
      _ = d'.exchanges ++ [x] := (congrArg Recorded.exchanges hw).trans hrecord
      _ = d.exchanges ++ (es ++ [x]) := by rw [h.record, List.append_assoc]
  · rw [hnext, hlen]
    rw [hlen] at hrequests
    exact h.chunks.concat (h.total ▸ hlt) hrequests hsucceeded

end Continued

/-- **Reading the rest in chunks.** -/
theorem readChunks_goes (t : Transport σ) {d : Dialogue (Recorded σ)} {p : Progress} (hx : d.session.extended = true)
    (hp : d.session.progress = some p) (hs : p.Sound d.session.maxLogLength) :
    Ensures (readChunks t.recording d.session.config.chunkSize d.session.chunkSize_pos p) d fun r d' =>
      match r with
      | .ok q => ∃ es, Continued d p es q d' ∧ q.offset = p.total
      | .error e => Goes d p (.error e) d' := by
  -- the loop ends at the end of the log
  suffices hrest : Ensures (readChunks t.recording d.session.config.chunkSize d.session.chunkSize_pos p) d fun r d' =>
      match r with
      | .ok q => (∃ es, Continued d p es q d') ∧ q.total ≤ q.offset
      | .error e => Goes d p (.error e) d' by
    refine hrest.mono fun r d' hr => ?_
    cases r with
    | error e => exact hr
    | ok q =>
      obtain ⟨⟨es, hq⟩, hdone⟩ := hr
      exact ⟨es, hq, by rw [← hq.total]; exact Nat.le_antisymm hq.sound.within hdone⟩
  refine readChunks_ensures d.session.chunkSize_pos (fun q d' => ∃ es, Continued d p es q d') ?_ ⟨[], .refl hp hs⟩
  rintro q d₁ ⟨es, hq⟩ hlt
  obtain ⟨hlen, hne, hmod⟩ := hq.length_chunk hlt
  have htotal : q.offset < p.total := hq.total ▸ hlt
  have hoffset : q.offset < 2 ^ 64 := Nat.lt_trans hlt (alignedLength_bounds hq.sound.total).2.2
  rw [hlen]
  by_cases hle : min d.session.config.chunkSize (p.total - q.offset) ≤ 2 ^ 34
  · have hfailed : ∀ {d₂} (e : Error), Failed .read q.offset
        (min d.session.config.chunkSize (p.total - q.offset)) d₁ d₂ → Goes d p (.error e) d₂ := by
      rintro d₂ e ⟨hsetup, hkept, x, hrecord, hrequests, hfail⟩
      exact hq.stopped hlt _ hrecord hsetup hkept (.failed hx hq.chunks htotal hrequests hfail) e
    refine ⟨_, getLog_sent t .read hoffset hq.sound.aligned hne hmod hle d₁, ?_, ?_, ?_⟩
    · exact fun e d₂ h₂ => hfailed e h₂.failed_of_error
    · exact fun status d₂ h₂ hs e s w hrefused hw => hfailed e (h₂.failed_of_refused hs hrefused hw)
    · rintro status d₂ h₂ hok w hw next rfl
      exact hq.next hlt rfl hmod h₂ hok hw
  · have hlong := Nat.lt_of_not_le hle
    refine ⟨_, getLog_unsent t .read hlong d₁, ?_, ?_, ?_⟩
    · rintro e d₂ ⟨-, hrecord, hkept⟩
      refine hq.stopped hlt [] (by rw [hrecord, List.append_nil]) ?_ (Or.inl (by rw [hkept])) ?_ e
      · rw [hkept]
        exact ⟨rfl, rfl, rfl⟩
      · rw [List.append_nil]
        exact .unsent hx hq.chunks htotal hlong
    · rintro status d₂ ⟨⟨e, he⟩, -⟩
      cases he
    · rintro status d₂ ⟨⟨e, he⟩, -⟩
      cases he

/-- What comes of reading the rest of a log: all of it was read, or the read ends here. -/
def Finishes (d : Dialogue (Recorded σ)) (p : Progress) (r : Except Error Progress) (d' : Dialogue (Recorded σ)) :
    Prop :=
  match r with
  | .ok q => q.header = p.header ∧ d.session.SameSetup d'.session
      ∧ ∃ es, d'.exchanges = d.exchanges ++ es ∧ Rest d.session p.total p.offset es p.total
  | .error e => Goes d p (.error e) d'

/-- **Reading the rest in one transfer.** -/
theorem readWhole_finishes (t : Transport σ) {d : Dialogue (Recorded σ)} {p : Progress}
    (hx : d.session.extended = false) (hp : d.session.progress = some p) (hs : p.Sound d.session.maxLogLength) :
    Ensures (readWhole t.recording p) d (Finishes d p) := by
  have hstart := Continued.refl hp hs
  by_cases hlen : p.offset < p.total ∧ p.total ≤ maxShortTransfer
  · obtain ⟨hlt, hle⟩ := hlen
    have hmod := alignedLength_mod hs.total
    have hshort : p.total ≤ 2 ^ 34 := Nat.le_trans hle (by decide)
    have hfailed : ∀ {d₁} (e : Error), Failed .read 0 p.total d d₁ → Goes d p (.error e) d₁ := by
      rintro d₁ e ⟨hsetup, hkept, x, hrecord, hrequests, hfail⟩
      have hrest := Rest.whole (s := d.session) hx hlt hle hrequests
      rw [if_neg (by rw [hfail]; exact Bool.false_ne_true)] at hrest
      exact hstart.stopped hlt _ hrecord hsetup hkept hrest e
    refine readWhole_ensures (getLog_sent t .read (by decide) rfl (by omega) hmod hshort d) ?_ ?_ ?_ ?_ ?_
    · intro hge
      omega
    · intro _ hlong
      omega
    · exact fun _ e d₁ h₁ => hfailed e h₁.failed_of_error
    · exact fun _ status d₁ h₁ hs e s w hrefused hw => hfailed e (h₁.failed_of_refused hs hrefused hw)
    · intro _ status d₁ h₁ hok w hw
      obtain ⟨x, hrecord, hrequests, hsucceeded, -⟩ := h₁.succeeded hok
      have hrest := Rest.whole (s := d.session) hx hlt hle hrequests
      rw [if_pos hsucceeded] at hrest
      exact ⟨rfl, h₁.setup, [x], (congrArg Recorded.exchanges hw).trans hrecord, hrest⟩
  · unfold readWhole
    by_cases hle : p.total ≤ p.offset
    · rw [if_pos hle]
      have hdone := Rest.header (s := d.session) hx (Nat.le_antisymm hle hs.within)
      exact .pure ⟨rfl, .refl _, [], (List.append_nil _).symm, hdone⟩
    · have hlt := Nat.lt_of_not_le hle
      have hlong : maxShortTransfer < p.total := by omega
      rw [if_neg hle, if_pos hlong]
      exact .seq (.throw (hstart.stopped hlt [] (List.append_nil _).symm (.refl _) (Or.inl rfl)
        (.refused hx hlt hlong) _))

/-- **Reading the rest of a log.** -/
theorem readRest_finishes (t : Transport σ) {d : Dialogue (Recorded σ)} {p : Progress}
    (hp : d.session.progress = some p) (hs : p.Sound d.session.maxLogLength) :
    Ensures (if d.session.extended then readChunks t.recording d.session.config.chunkSize d.session.chunkSize_pos p
      else readWhole t.recording p) d (Finishes d p) := by
  refine readRest_ensures (fun hx => ?_) fun hx => readWhole_finishes t hx hp hs
  refine (readChunks_goes t hx hp hs).mono fun r d' hr => ?_
  cases r with
  | error e => exact hr
  | ok q =>
    obtain ⟨es, hq, hdone⟩ := hr
    have hchunks := hq.chunks
    rw [hdone] at hchunks
    exact ⟨hq.header, hq.setup, es, hq.record, .chunks hx hchunks⟩

/-! ## Reading the log -/

/-- What comes of a read of the header: a read begins, or there is none. -/
def Begins (d : Dialogue (Recorded σ)) (r : Except Error Progress) (d' : Dialogue (Recorded σ)) : Prop :=
  match r with
  | .ok p => d'.session.progress = some p ∧ p.Sound d'.session.maxLogLength ∧ p.offset = headerLength
      ∧ d.session.SameSetup d'.session
      ∧ ∃ x, d'.exchanges = d.exchanges ++ [x] ∧ Requests x.command .read 0 headerLength ∧ x.succeeded = true
        ∧ Header.decode x.received = .ok p.header
  | .error e => Leaves d d' fun es => LogReads d.session es (.error e) d'.session.progress

/-- **Reading the header.** -/
theorem readHeader_begins (t : Transport σ) {d : Dialogue (Recorded σ)} (hp : d.session.progress = none) :
    Ensures (readHeader t.recording) d (Begins d) := by
  have hnone : ∀ (x : Exchange) (e : Error) (d' : Dialogue (Recorded σ)), d'.exchanges = d.exchanges ++ [x] →
      Requests x.command .read 0 headerLength → d.session.SameSetup d'.session →
      (x.succeeded = true → ∀ header total, Header.decode x.received = .ok header →
        header.alignedLength = some total → d.session.maxLogLength < total) →
      (d'.session.progress = d.session.progress ∨ d'.session.progress = none) → Begins d (.error e) d' := by
    intro x e d' hrecord hrequests hsetup hunread hkept
    have hkept' : d'.session.progress = none := by rwa [hp, or_self] at hkept
    refine ⟨⟨[x], hrecord, ?_⟩, hsetup, .of_none hkept'⟩
    rw [hkept']
    exact .unread hp hrequests hunread
  have hfailed : ∀ {d'} (e : Error), Failed .read 0 headerLength d d' → Begins d (.error e) d' := by
    rintro d' e ⟨hsetup, hkept, x, hrecord, hrequests, hfail⟩
    refine hnone x e d' hrecord hrequests hsetup (fun hok => ?_) hkept
    rw [hfail] at hok
    cases hok
  refine readHeader_ensures (getLog_sent t .read (by decide) rfl (by decide) rfl (by decide) d) ?_ ?_ ?_
  · exact fun e d₁ h₁ => hfailed e h₁.failed_of_error
  · exact fun status d₁ h₁ hs e s w hrefused hw => hfailed e (h₁.failed_of_refused hs hrefused hw)
  · intro status d₁ h₁ hok r s w hread hw
    obtain ⟨x, hrecord, hrequests, hsucceeded, hbytes, hlength⟩ := h₁.succeeded hok
    have hrecord' : w.device.exchanges = d.exchanges ++ [x] := (congrArg Recorded.exchanges hw).trans hrecord
    have hsetup : d.session.SameSetup (d₁.session.believing .established) :=
      h₁.setup.trans (Session.sameSetup_believing ..)
    have hkept : (d₁.session.believing .established).progress = d.session.progress := h₁.progress
    rw [hbytes] at hread
    cases hread with
    | undecodable hdecode =>
      refine hnone x _ ⟨_, w⟩ hrecord' hrequests hsetup (fun _ header total hdecode' => ?_) (Or.inl hkept)
      rw [hdecode] at hdecode'
      cases hdecode'
    | @tooLong header len hdecode hlong =>
      refine hnone x _ ⟨_, w⟩ hrecord' hrequests hsetup (fun _ header' total hdecode' htotal => ?_) (Or.inl hkept)
      cases Except.ok.inj (hdecode.symm.trans hdecode')
      rcases hlong with ⟨hnot, -⟩ | ⟨hlen, hmax⟩
      · rw [hnot] at htotal
        cases htotal
      · cases hlen.symm.trans htotal
        rw [← hsetup.maxLogLength]
        exact hmax
    | @begun header total hdecode htotal hmax =>
      have hbounds := (alignedLength_bounds htotal).2.1
      have hdword : headerLength % 4 = 0 := by decide
      exact ⟨rfl, ⟨Nat.le_refl _, hdword, hbounds, htotal, hmax, hlength⟩, rfl, hsetup.trans ⟨rfl, rfl, rfl⟩, x,
        hrecord', hrequests, hsucceeded, hdecode⟩

/-- A read whose log was read to the end gives the log, and is not kept. -/
theorem Finishes.goes {d d' : Dialogue (Recorded σ)} {p q : Progress} (h : Finishes d p (.ok q) d')
    {w : World (Recorded σ)} (hw : w.device = d'.world.device) {log : Log} (hlog : log.header = q.header) :
    Goes d p (.ok log) ⟨{ d'.session with progress := none }, w⟩ := by
  obtain ⟨hheader, hsetup, es, hrecord, hrest⟩ := h
  refine ⟨⟨es, (congrArg Recorded.exchanges hw).trans hrecord, p.total, hrest, ?_⟩, hsetup.trans ⟨rfl, rfl, rfl⟩,
    .of_none rfl⟩
  exact .finished rfl (hlog.trans hheader)

/-- A read that began with its header. -/
theorem Begins.leaves {d d₁ d' : Dialogue (Recorded σ)} {p : Progress} {r : Except Error Log}
    (hp : d.session.progress = none) (h : Begins d (.ok p) d₁) (hgoes : Goes d₁ p r d') :
    Leaves d d' fun es => LogReads d.session es r d'.session.progress := by
  obtain ⟨-, hsound, hoffset, hsetup, x, hrecord, hrequests, hsucceeded, hdecode⟩ := h
  obtain ⟨⟨es, hrecord', stop, hrest, hends⟩, hsetup', hsound'⟩ := hgoes
  have hmax : p.total ≤ d.session.maxLogLength := hsetup.maxLogLength ▸ hsound.bounded
  rw [hoffset] at hrest
  refine ⟨⟨x :: es, ?_, ?_⟩, hsetup.trans hsetup', hsound'⟩
  · rw [hrecord', hrecord, List.append_assoc, List.singleton_append]
  · exact .begun hp hrequests hsucceeded hdecode hsound.total hmax (hrest.of_sameSetup hsetup) hends

/-- **Reading the log.** -/
theorem readLogUnchecked_leaves (t : Transport σ) {d : Dialogue (Recorded σ)} (hs : d.session.Sound) :
    Ensures (readLogUnchecked t.recording) d fun r d' =>
      Leaves d d' fun es => LogReads d.session es r d'.session.progress := by
  cases hp : d.session.progress with
  | some p =>
    have hresumed : ∀ {r d'}, Goes d p r d' → Leaves d d' fun es => LogReads d.session es r d'.session.progress := by
      rintro r d' ⟨⟨es, hrecord, stop, hrest, hends⟩, hsetup, hsound⟩
      exact ⟨⟨es, hrecord, .resumed hp hrest hends⟩, hsetup, hsound⟩
    refine readLogUnchecked_ensures (fun r d' => r = .ok p ∧ d' = d) (Finishes d p) ?_ ?_ ?_ ?_ ?_ ?_
    · intro p' hp'
      cases hp.symm.trans hp'
      exact ⟨rfl, rfl⟩
    · intro hnone
      cases hp.symm.trans hnone
    · rintro p' d₁ ⟨hp', rfl⟩
      cases hp'
      exact readRest_finishes t hp (hs p hp).1
    · rintro e d₁ ⟨he, -⟩
      cases he
    · intro e d₁ h₁
      exact hresumed h₁
    · intro q d₁ h₁ w hw
      exact hresumed (h₁.goes hw rfl)
  | none =>
    refine readLogUnchecked_ensures (Begins d) (fun r d' => ∃ p d₁, Begins d (.ok p) d₁ ∧ Finishes d₁ p r d')
      ?_ ?_ ?_ ?_ ?_ ?_
    · intro p hp'
      cases hp.symm.trans hp'
    · exact fun _ => readHeader_begins t hp
    · intro p d₁ h₁
      exact (readRest_finishes t h₁.1 h₁.2.1).mono fun r d' hr => ⟨p, d₁, h₁, hr⟩
    · exact fun e d₁ h₁ => h₁
    · rintro e d₂ ⟨p, d₁, h₁, h₂⟩
      exact h₁.leaves hp h₂
    · rintro q d₂ ⟨p, d₁, h₁, h₂⟩ w hw
      exact h₁.leaves hp (h₂.goes hw rfl)

/-! ## Operations -/

/-- One command, and no read that is kept. -/
structure Leaves.One (action : ContextAction) (d d' : Dialogue (Recorded σ)) : Prop where
  setup : d.session.SameSetup d'.session
  progress : d'.session.progress = none
  exchange : ∃ e, d'.exchanges = d.exchanges ++ [e] ∧ Requests e.command action 0 headerLength

/-- Such an operation has its transcript if that asks for nothing else. -/
theorem Leaves.One.leaves {action : ContextAction} {d d' : Dialogue (Recorded σ)} {property : List Exchange → Prop}
    (h : Leaves.One action d d') (hp : ∀ es, (d'.session.progress = none ∧
      ∃ e, es = [e] ∧ Requests e.command action 0 headerLength) → property es) : Leaves d d' property := by
  obtain ⟨hsetup, hprogress, x, hrecord, hrequests⟩ := h
  exact ⟨⟨[x], hrecord, hp _ ⟨hprogress, x, rfl, hrequests⟩⟩, hsetup, .of_none hprogress⟩

theorem establish_one (t : Transport σ) (d : Dialogue (Recorded σ)) :
    Ensures (establish t.recording) d fun r d' => Leaves.One .establish d d' ∧
      (∀ u, r = .ok u → d'.session.state = .established) := by
  have hone : ∀ r d₁ s w,
      Sent .establish 0 headerLength { d with session := { d.session with progress := none } } r d₁ →
      d₁.session.SameSetup s → (s.progress = d₁.session.progress ∨ s.progress = none) → w.device = d₁.world.device →
      Leaves.One .establish d ⟨s, w⟩ := by
    intro r d₁ s w h₁ hsetup hkept hw
    obtain ⟨x, hrecord, hrequests, -⟩ := h₁.exchange
    have hsetup' : d.session.SameSetup d₁.session :=
      ⟨h₁.setup.config, h₁.setup.extended, h₁.setup.maxLogLength⟩
    rw [h₁.progress, or_self] at hkept
    exact ⟨hsetup'.trans hsetup, hkept, x, (congrArg Recorded.exchanges hw).trans hrecord, hrequests⟩
  refine establish_ensures (getLog_sent t .establish (by decide) rfl (by decide) rfl (by decide) _) ?_ ?_ ?_
  · intro e d₁ h₁
    exact ⟨hone _ d₁ d₁.session d₁.world h₁ (.refl _) (Or.inl rfl) rfl, fun _ hu => by cases hu⟩
  · intro status d₁ h₁ _ w hw
    exact ⟨hone _ d₁ _ w h₁ (Session.sameSetup_believing ..) (Session.progress_believing ..) hw, fun _ _ => rfl⟩
  · intro status d₁ h₁ _ _ w hw
    exact ⟨hone _ d₁ _ w h₁ (Session.sameSetup_believing ..) (Session.progress_believing ..) hw,
      fun _ hu => by cases hu⟩

theorem release_one (t : Transport σ) (d : Dialogue (Recorded σ)) :
    Ensures (release t.recording) d fun _ d' => Leaves.One .release d d' := by
  refine release_ensures (getLog_sent t .release (by decide) rfl (by decide) rfl (by decide) d) fun r d₁ h₁ w hw => ?_
  obtain ⟨x, hrecord, hrequests, -⟩ := h₁.exchange
  exact ⟨h₁.setup.trans (Session.sameSetup_believing ..), rfl, x, (congrArg Recorded.exchanges hw).trans hrecord,
    hrequests⟩

/-- What an operation leaves behind. -/
abbrev Operation.Leaves (op : Operation) (d : Dialogue (Recorded σ)) (r : Except Error (Option Log))
    (d' : Dialogue (Recorded σ)) : Prop :=
  EventLog.Leaves d d' fun es => Transcript d.session op es r d'.session.progress

theorem checkContext_leaves (t : Transport σ) {d : Dialogue (Recorded σ)} (hs : d.session.Sound) :
    Ensures (checkContext t.recording) d fun _ d' => ∀ r, NoLog r → Operation.checkContext.Leaves d r d' := by
  have hone : ∀ r d₁ s w, Sent .read 0 headerLength d r d₁ → d₁.session.SameSetup s →
      (s.progress = d₁.session.progress ∨ s.progress = none) → w.device = d₁.world.device →
      ∀ r', NoLog r' → Operation.checkContext.Leaves d r' ⟨s, w⟩ := by
    intro r d₁ s w h₁ hsetup hkept hw r' hr'
    obtain ⟨x, hrecord, hrequests, -⟩ := h₁.exchange
    rw [h₁.progress] at hkept
    have hsetup' := h₁.setup.trans hsetup
    refine ⟨⟨[x], (congrArg Recorded.exchanges hw).trans hrecord, hr', hkept, x, rfl, hrequests⟩, hsetup', ?_⟩
    rcases hkept with hkept | hkept
    · intro p hp
      rw [hsetup'.maxLogLength]
      exact hs p (hkept.symm.trans hp)
    · exact .of_none hkept
  refine checkContext_ensures (getLog_sent t .read (by decide) rfl (by decide) rfl (by decide) d) ?_ ?_
  · intro e d₁ h₁
    exact hone _ d₁ d₁.session d₁.world h₁ (.refl _) (Or.inl rfl) rfl
  · intro status d₁ h₁ w hw
    exact hone _ d₁ _ w h₁ (Session.sameSetup_believing ..) (Session.progress_believing ..) hw

theorem readLog_leaves (t : Transport σ) {d : Dialogue (Recorded σ)} (hs : d.session.Sound) :
    Ensures (readLog t.recording) d fun r d' => Operation.readLog.Leaves d (r.map some) d' := by
  have hrefused : ∀ e, d.session.state ≠ .established → Operation.readLog.Leaves d (.error e) d := by
    intro e hstate
    exact ⟨⟨[], (List.append_nil _).symm, (if_neg hstate).mpr ⟨rfl, rfl, e, rfl⟩⟩, .refl _, hs⟩
  refine readLog_ensures (fun hstate => ?_) (fun hstate => hrefused _ (by rw [hstate]; decide))
    fun hstate => hrefused _ (by rw [hstate]; decide)
  exact (readLogUnchecked_leaves t hs).mono fun r d' hr => hr.mono fun es hes => (if_pos hstate).mpr ⟨r, rfl, hes⟩

theorem retrieve_leaves (t : Transport σ) (d : Dialogue (Recorded σ)) :
    Ensures (retrieve t.recording) d fun r d' => Operation.retrieve.Leaves d (r.map some) d' := by
  refine retrieve_ensures (fun r d₂ => ∃ made reads, d₂.exchanges = d.exchanges ++ made :: reads
      ∧ Requests made.command .establish 0 headerLength ∧ d.session.SameSetup d₂.session
      ∧ LogReads { d.session with progress := none } reads r d₂.session.progress) (establish_one t d) ?_ ?_ ?_
  · rintro d₁ ⟨⟨hsetup, hprogress, made, hmade, hrequests⟩, hstate⟩
    have hestablished := hstate () rfl
    refine readLog_ensures (fun _ => ?_) (fun hs => ?_) fun hs => ?_
    · refine (readLogUnchecked_leaves t (.of_none hprogress)).mono fun r d₂ hr => ?_
      obtain ⟨⟨reads, hrecord, hreads⟩, hsetup', -⟩ := hr
      have hsetup'' : ({ d.session with progress := none } : Session).SameSetup d₁.session :=
        ⟨hsetup.config, hsetup.extended, hsetup.maxLogLength⟩
      refine ⟨made, reads, ?_, hrequests, hsetup.trans hsetup', hreads.of_sameSetup hsetup'' hprogress⟩
      rw [hrecord, hmade, List.append_assoc, List.singleton_append]
    · cases hestablished.symm.trans hs
    · cases hestablished.symm.trans hs
  · rintro e d₁ ⟨⟨hsetup, hprogress, made, hmade, hrequests⟩, -⟩
    exact ⟨⟨[made], hmade, hprogress, made, hrequests, Or.inl ⟨rfl, e, rfl⟩⟩, hsetup, .of_none hprogress⟩
  · rintro r d₂ ⟨made, reads, hrecord, hrequests, hsetup, hreads⟩
    refine (release_one t d₂).mono fun _ d₃ h₃ w hw => ?_
    obtain ⟨hsetup', hprogress, released, hreleased, hrequests'⟩ := h₃
    have hall : w.device.exchanges = d.exchanges ++ (made :: reads ++ [released]) := by
      rw [← List.append_assoc, ← hrecord, ← hreleased]
      exact congrArg Recorded.exchanges hw
    exact ⟨⟨_, hall, hprogress, made, hrequests, Or.inr ⟨reads, released, r, _, rfl, rfl, hreads, hrequests'⟩⟩,
      hsetup.trans hsetup', .of_none hprogress⟩

/-- **Every operation has its transcript** where the session is sound, and leaves it sound. -/
theorem perform_leaves (t : Transport σ) {d : Dialogue (Recorded σ)} (hs : d.session.Sound) (op : Operation) :
    Ensures (op.perform t.recording) d (op.Leaves d) := by
  cases op with
  | establish =>
    refine .noLog ((establish_one t d).mono fun _ d' h r hr => ?_)
    exact h.1.leaves fun _ hes => ⟨hr, hes⟩
  | readLog => exact .log (readLog_leaves t hs)
  | readLogUnchecked =>
    refine .log ((readLogUnchecked_leaves t hs).mono fun r d' h => ?_)
    exact h.mono fun _ hes => ⟨r, rfl, hes⟩
  | checkContext => exact .noLog (checkContext_leaves t hs)
  | release =>
    refine .noLog ((release_one t d).mono fun _ d' h r hr => ?_)
    exact h.leaves fun _ hes => ⟨hr, hes⟩
  | retrieve => exact .log (retrieve_leaves t d)

/-! ## Runs -/

/-- An operation has its transcript, keeps the setup of the session, and leaves the session sound. -/
theorem perform_transcript (t : Transport σ) {d : Dialogue σ} (hs : d.session.Sound) (op : Operation) :
    Transcript d.session op (op.exchanges t d) ((op.perform t).run.run d).1
        ((op.perform t).run.run d).2.session.progress
      ∧ d.session.SameSetup ((op.perform t).run.run d).2.session ∧ ((op.perform t).run.run d).2.session.Sound := by
  have hleaves := perform_leaves t (d := d.recorded) hs op
  obtain ⟨⟨es, hrecord, htranscript⟩, hsetup, hsound⟩ := hleaves
  have hes : op.exchanges t d = es := hrecord
  rw [perform_recording t op d, hes]
  exact ⟨htranscript, hsetup, hsound⟩

/-- The sessions that operations lead to are sound. -/
theorem Reaches.sound {t : Transport σ} {between : Dialogue σ → World σ → Prop} {d : Dialogue σ}
    (h : Reaches t between d) : d.session.Sound := by
  induction h with
  | new h _ => exact .of_none (Session.fresh_new h).progress
  | probe h => exact .of_none (fresh_probe h).progress
  | perform op _ ih => exact (perform_transcript t ih op).2.2
  | idle _ _ ih => exact ih

/-- **The commands of an operation**: in every dialogue that operations lead to, every operation has its transcript. -/
theorem operation_transcript (t : Transport σ) (between : Dialogue σ → World σ → Prop) (d : Dialogue σ)
    (h : Reaches t between d) (op : Operation) :
    d.session.Sound
      ∧ Transcript d.session op (op.exchanges t d) ((op.perform t).run.run d).1
        ((op.perform t).run.run d).2.session.progress
      ∧ ∀ e ∈ op.exchanges t d, ∃ action offset len, Requests e.command action offset len := by
  obtain ⟨htranscript, -, -⟩ := perform_transcript t h.sound op
  exact ⟨h.sound, htranscript, htranscript.requests⟩

/-- A read that was cut off after the header goes on with the second half of the log. -/
theorem operation_transcript_interrupted :
    Scripted.interrupted.session.Sound
      ∧ (Operation.readLogUnchecked.exchanges Scripted.controller.transport Scripted.interrupted).map
        (fun e => (Emulated.offsetOf e.command, e.command.dataLength)) = [(512, 512)]
      ∧ Transcript Scripted.interrupted.session .readLogUnchecked
        (Operation.readLogUnchecked.exchanges Scripted.controller.transport Scripted.interrupted)
        ((Operation.readLogUnchecked.perform Scripted.controller.transport).run.run Scripted.interrupted).1
        ((Operation.readLogUnchecked.perform Scripted.controller.transport).run.run
          Scripted.interrupted).2.session.progress := by
  have hexchanges : (Operation.readLogUnchecked.exchanges Scripted.controller.transport Scripted.interrupted).map
      (fun e => (Emulated.offsetOf e.command, e.command.dataLength)) = [(512, 512)] := by decide +kernel
  obtain ⟨hsound, htranscript, -⟩ := operation_transcript Scripted.controller.transport (fun _ _ => False)
    Scripted.interrupted (Scripted.reaches_interrupted _) .readLogUnchecked
  exact ⟨hsound, hexchanges, htranscript⟩

end StorageCommands.EventLog
