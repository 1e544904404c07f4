import StorageCommands.Proofs.EventLog.Conformance
import StorageCommands.Proofs.Layout.Decoding

/-!
# Errors that no device causes

A command that cannot be built, or a header that is too short to be decoded, would be the fault of the session itself
(`Error.isInternal`). What a session stands on rules both out (`Session.Stands`): its buffer has room for a header and
for a chunk, and a read that is kept stands at a whole dword of its log. Every step keeps this, so that the next command
has a positive number of whole dwords, and at most 2^34 bytes if the chunk size or the longest log is no longer than
that.

`perform_upheld`: no operation ends with an internal error, whatever the device answers.
-/

namespace StorageCommands.EventLog

open Nvme Layout

variable {σ α : Type}

/-- An error that is the fault of the session, and not of its caller or its device. -/
def Error.isInternal : Error → Bool
  | build _ | header _ => true
  | _ => false

/-! ## What a session stands on -/

/-- A session with the setup of another one. Its buffer has room for a header and for a chunk, and a read that is kept
stands at a whole dword of its log. -/
structure Session.Stands (s₀ s : Session) : Prop where
  setup : s₀.SameSetup s
  header_le : headerLength ≤ s.buffer.size
  chunk_le : s₀.config.chunkSize ≤ s.buffer.size
  kept : ∀ p ∈ s.progress, p.Sound s₀.maxLogLength

/-- How an operation ends: on a session that stands, and with no internal error. -/
structure Upheld (s₀ : Session) (r : Except Error α) (d : Dialogue σ) : Prop where
  stands : s₀.Stands d.session
  external : ∀ e, r = .error e → e.isInternal = false

namespace Upheld

variable {β : Type} {s₀ s : Session} {w : World σ}

theorem ok (h : s₀.Stands s) (a : α) : Upheld s₀ (.ok a) ⟨s, w⟩ := ⟨h, nofun⟩

theorem error (h : s₀.Stands s) {e : Error} (he : e.isInternal = false) :
    Upheld s₀ (.error e : Except Error α) ⟨s, w⟩ :=
  ⟨h, fun _ heq => Except.error.inj heq ▸ he⟩

/-- An error that is passed on. -/
theorem passed {e : Error} {d : Dialogue σ} (h : Upheld s₀ (.error e : Except Error β) d) :
    Upheld s₀ (.error e : Except Error α) d :=
  .error h.stands (h.external e rfl)

end Upheld

namespace Session.Stands

variable {s₀ s s' : Session}

/-- A change of the belief about the context, and a larger buffer, keep what a session stands on. -/
theorem of_le (h : s₀.Stands s) (hsetup : s.SameSetup s') (hsize : s.buffer.size ≤ s'.buffer.size)
    (hkept : s'.progress = s.progress ∨ s'.progress = none) : s₀.Stands s' := by
  refine ⟨h.setup.trans hsetup, Nat.le_trans h.header_le hsize, Nat.le_trans h.chunk_le hsize, fun p hp => ?_⟩
  rcases hkept with hkept | hkept
  · exact h.kept p (hkept ▸ hp)
  · rw [hkept] at hp
    cases hp

theorem believing (h : s₀.Stands s) (state : ContextState) : s₀.Stands (s.believing state) :=
  h.of_le (s.sameSetup_believing state) (Nat.le_refl _) (s.progress_believing state)

theorem dropProgress (h : s₀.Stands s) : s₀.Stands { s with progress := none } :=
  h.of_le ⟨rfl, rfl, rfl⟩ (Nat.le_refl _) (Or.inr rfl)

theorem keepProgress (h : s₀.Stands s) {p : Progress} (hp : p.Sound s₀.maxLogLength) :
    s₀.Stands { s with progress := some p } :=
  ⟨h.setup.trans ⟨rfl, rfl, rfl⟩, h.header_le, h.chunk_le, fun _ hq => Option.some.inj hq ▸ hp⟩

/-- A read that is given up at a transfer that was not successful. -/
theorem refused (h : s₀.Stands s) {status : StatusWord} {offset : Nat} {e : Error} (hr : Refused s status offset e s')
    (w : World σ) : Upheld s₀ (.error e : Except Error α) (⟨s', w⟩ : Dialogue σ) := by
  cases hr with
  | noContext => exact .error (h.believing _) rfl
  | failed => exact .error h rfl

end Session.Stands

/-! ## Transfers -/

/-- What a transfer leaves of a session: its buffer has room for the transfer, and is not shorter than before. -/
structure HoldsTransfer (len : Nat) (s s' : Session) : Prop where
  kept : s' = { s with buffer := s'.buffer, state := s'.state }
  holds : len ≤ s'.buffer.size
  grows : s.buffer.size ≤ s'.buffer.size

theorem Session.size_le_lend (s : Session) (len : Nat) : s.buffer.size ≤ (s.lend len).size := by
  unfold lend
  split
  · rename_i h
    exact Nat.le_of_lt (h.trans_eq (Bytes.length_zeros len).symm)
  · exact Nat.le_refl _

/-- There is a command for whole dwords, through the buffer that the session lends for them. -/
theorem Session.exists_command_lend (s : Session) (action : ContextAction) (offset : Nat) {len : Nat} (hne : len ≠ 0)
    (hmod : len % 4 = 0) (hle : len ≤ 2 ^ 34) : ∃ d, s.command action offset len (s.lend len) = .ok d :=
  exists_command hne hmod hle (s.le_size_lend len)

/-- The buffer that a session gets back from a command is as long as the one that it lent. -/
theorem size_lentBuffer {t : Transport σ} {buffer : DataBuffer} {len : Nat} {d d' : CommandDescriptor} {w w' : World σ}
    {result : Except TransportError StatusWord} (ht : d.transfer = some ⟨⟨buffer, true⟩, len⟩)
    (hd : d.completion = none) (h : issue t d w = (result, d', w')) :
    (d'.lentBuffer.getD buffer).size = buffer.size := by
  obtain ⟨answer, w₁, -, rfl, -⟩ := issue_cases hd h
  obtain ⟨t', ht', hkeeps⟩ := CommandDescriptor.afterAll_transfer ht answer.effects
  rw [CommandDescriptor.lentBuffer, ht', Option.bind_some, hkeeps.isLent]
  exact hkeeps.size

/-- **The buffer always holds the transfer.** -/
theorem getLog_holds (t : Transport σ) (action : ContextAction) (offset len : Nat) (d : Dialogue σ) :
    Ensures (getLog t action offset len) d fun r d' => HoldsTransfer len d.session d'.session
      ∧ ∀ e, r = .error e → e.isInternal = true →
        ∃ cause, d.session.command action offset len (d.session.lend len) = .error cause := by
  have hlend : len ≤ (d.session.lend len).size := d.session.le_size_lend len
  have hgrows : d.session.buffer.size ≤ (d.session.lend len).size := d.session.size_le_lend len
  refine Ensures.getLog (fun cause hcause => ?_) fun command hcommand result command' w hissue w' _ => ?_
  · exact ⟨⟨rfl, hlend, hgrows⟩, fun _ _ _ => ⟨cause, hcause⟩⟩
  · obtain ⟨hasked, htransfer, -⟩ := GetLogPage.command_asked hcommand
    have hsize := size_lentBuffer htransfer hasked.notExecuted hissue
    have hholds : HoldsTransfer len d.session
        { d.session with buffer := command'.lentBuffer.getD (d.session.lend len) } :=
      ⟨rfl, hlend.trans_eq hsize.symm, hgrows.trans_eq hsize.symm⟩
    cases result with
    | ok status => exact ⟨hholds, fun e he => by cases he⟩
    | error e => exact ⟨⟨rfl, hholds.holds, hholds.grows⟩, by rintro _ ⟨⟩ ⟨⟩⟩

variable {s₀ : Session}

/-- **A transfer of whole dwords** ends with no internal error. -/
theorem getLog_upheld (t : Transport σ) (action : ContextAction) {offset len : Nat} (hne : len ≠ 0) (hmod : len % 4 = 0)
    (hle : len ≤ 2 ^ 34) {d : Dialogue σ} (h : s₀.Stands d.session) :
    Ensures (getLog t action offset len) d fun r d' => Upheld s₀ r d' ∧ len ≤ d'.session.buffer.size := by
  refine (getLog_holds t action offset len d).mono fun r d' hd' => ?_
  obtain ⟨⟨hkept, hholds, hgrows⟩, hbuild⟩ := hd'
  have hsetup : d.session.SameSetup d'.session := by
    rw [hkept]
    exact ⟨rfl, rfl, rfl⟩
  have hprogress : d'.session.progress = d.session.progress := by rw [hkept]
  refine ⟨⟨h.of_le hsetup hgrows (Or.inl hprogress), fun e he => ?_⟩, hholds⟩
  -- there is a command, and no error to build one
  obtain ⟨command, hcommand⟩ := d.session.exists_command_lend action offset hne hmod hle
  by_contra hinternal
  obtain ⟨cause, hcause⟩ := hbuild e he (by simpa using hinternal)
  rw [hcommand] at hcause
  cases hcause

/-- A transfer of as many bytes as a header has. -/
theorem getLog_header_upheld (t : Transport σ) (action : ContextAction) {d : Dialogue σ} (h : s₀.Stands d.session) :
    Ensures (getLog t action 0 headerLength) d fun r d' => Upheld s₀ r d' ∧ headerLength ≤ d'.session.buffer.size :=
  getLog_upheld t action (by decide) (by decide) (by decide) h

/-! ## Reading the log -/

/-- As many bytes as a header has are decoded. -/
theorem Header.exists_decode {data : Bytes} (h : data.length = EventLog.headerLength) :
    ∃ header, Header.decode data = .ok header := by
  have hlength : headerTable.minLength ≤ data.length := by
    rw [h]
    decide
  obtain ⟨v, hv⟩ := Table.decode_isOk_iff.2 hlength
  rw [Header.decode, hv]
  exact ⟨_, rfl⟩

/-- **Reading the header** ends with no internal error, and a read that begins stands at its end. -/
theorem readHeader_upheld (t : Transport σ) {d : Dialogue σ} (h : s₀.Stands d.session) :
    Ensures (readHeader t) d fun r d' => Upheld s₀ r d' ∧ ∀ p, r = .ok p → p.Sound s₀.maxLogLength := by
  refine readHeader_ensures (getLog_header_upheld t .read h) ?_ ?_ ?_
  · exact fun e d₁ h₁ => ⟨h₁.1.passed, nofun⟩
  · exact fun status d₁ h₁ _ e s w hrefused _ => ⟨h₁.1.stands.refused hrefused w, nofun⟩
  · rintro status d₁ ⟨⟨hstands, -⟩, hholds⟩ - r s w hread -
    have hlength : (d₁.session.buffer.bytes.take headerLength).length = headerLength := List.length_take_of_le hholds
    have hestablished := hstands.believing .established
    cases hread with
    | undecodable hdecode =>
      obtain ⟨header, hheader⟩ := Header.exists_decode hlength
      rw [hheader] at hdecode
      cases hdecode
    | tooLong _ _ => exact ⟨.error hestablished rfl, nofun⟩
    | @begun header total _ htotal hmax =>
      have hsound : Progress.Sound ⟨header, total, headerLength, d₁.session.buffer.bytes.take headerLength⟩
          s₀.maxLogLength := by
        have hdword : headerLength % 4 = 0 := by decide
        refine ⟨Nat.le_refl _, hdword, (alignedLength_bounds htotal).2.1, htotal, ?_, hlength⟩
        rw [← hestablished.setup.maxLogLength]
        exact hmax
      exact ⟨.ok (hestablished.keepProgress hsound) _, by rintro p ⟨⟩; exact hsound⟩

/-- **Reading the whole log.** -/
theorem readWhole_upheld (t : Transport σ) {d : Dialogue σ} {p : Progress} (h : s₀.Stands d.session)
    (hp : p.Sound s₀.maxLogLength) : Ensures (readWhole t p) d (Upheld s₀) := by
  by_cases hread : p.offset < p.total ∧ p.total ≤ maxShortTransfer
  · obtain ⟨hlt, hshort⟩ := hread
    have hmod := alignedLength_mod hp.total
    have hne : p.total ≠ 0 := Nat.ne_of_gt (Nat.zero_lt_of_lt hlt)
    have hle : p.total ≤ 2 ^ 34 := Nat.le_trans hshort (by decide)
    refine readWhole_ensures (getLog_upheld t .read hne hmod hle h) (fun hdone => ?_) (fun _ hlong => ?_) (fun _ => ?_)
      (fun _ => ?_) fun _ => ?_
    · exact absurd hlt (Nat.not_lt.2 hdone)
    · exact absurd hshort (Nat.not_le.2 hlong)
    · exact fun e d₁ h₁ => h₁.1.passed
    · exact fun status d₁ h₁ _ e s w hrefused _ => h₁.1.stands.refused hrefused w
    · exact fun status d₁ h₁ _ w _ => .ok h₁.1.stands _
  · unfold readWhole
    by_cases hle : p.total ≤ p.offset
    · rw [if_pos hle]
      exact .pure (.ok h _)
    · have hlong : maxShortTransfer < p.total := by omega
      rw [if_neg hle, if_pos hlong]
      exact .seq (.throw (.error h rfl))

/-- The next chunk has a positive number of whole dwords, and not too many of them. -/
theorem Progress.Sound.chunkLength_fits {p : Progress} {maxLogLength chunkSize : Nat} (h : p.Sound maxLogLength)
    (hlt : p.offset < p.total) (pos : 0 < chunkSize) (hdvd : chunkSize % 4 = 0)
    (hlimit : min chunkSize maxLogLength ≤ 2 ^ 34) :
    p.chunkLength chunkSize ≠ 0 ∧ p.chunkLength chunkSize % 4 = 0 ∧ p.chunkLength chunkSize ≤ 2 ^ 34
      ∧ p.chunkLength chunkSize ≤ p.total - p.offset := by
  have haligned := h.aligned
  have hbounded := h.bounded
  have hmod := alignedLength_mod h.total
  rw [h.chunkLength_eq hdvd]
  omega

/-- After a chunk that the buffer holds, a read stands at a whole dword again. -/
theorem Progress.Sound.next {p : Progress} {maxLogLength len : Nat} (h : p.Sound maxLogLength) (hmod : len % 4 = 0)
    (hlen : len ≤ p.total - p.offset) {buffer : DataBuffer} (hsize : len ≤ buffer.size) :
    (p.advance len buffer.bytes).Sound maxLogLength :=
  (h.advance hmod hlen (List.length_take_of_le hsize)).1

/-- **Reading the chunks.** -/
theorem readChunks_upheld (t : Transport σ) {chunkSize : Nat} (pos : 0 < chunkSize) (hdvd : chunkSize % 4 = 0)
    (hlimit : min chunkSize s₀.maxLogLength ≤ 2 ^ 34) {d : Dialogue σ} {p : Progress} (h : s₀.Stands d.session)
    (hp : p.Sound s₀.maxLogLength) : Ensures (readChunks t chunkSize pos p) d (Upheld s₀) := by
  refine (@readChunks_ensures σ t chunkSize pos (fun q d' => s₀.Stands d'.session ∧ q.Sound s₀.maxLogLength)
    (fun e d' => Upheld s₀ (.error e : Except Error Progress) d') ?_ p d ⟨h, hp⟩).mono fun r d' hr => ?_
  · rintro q d₁ ⟨hstands, hsound⟩ hlt
    obtain ⟨hne, hmod, hle, hrest⟩ := hsound.chunkLength_fits hlt pos hdvd hlimit
    refine ⟨_, getLog_upheld t .read hne hmod hle hstands, ?_, ?_, ?_⟩
    · exact fun e d₂ h₂ => h₂.1.passed
    · exact fun status d₂ h₂ _ e s w hrefused _ => h₂.1.stands.refused hrefused w
    · rintro status d₂ ⟨⟨hstands', -⟩, hholds⟩ - w - next rfl
      have hnext := hsound.next hmod hrest hholds
      exact ⟨hstands'.keepProgress hnext, hnext⟩
  · cases r with
    | ok q => exact .ok hr.1.1 q
    | error e => exact hr

/-! ## Operations -/

section

variable (hlimit : min s₀.config.chunkSize s₀.maxLogLength ≤ 2 ^ 34)
include hlimit

/-- **Reading the rest of a log.** -/
theorem readRest_upheld (t : Transport σ) {d : Dialogue σ} {p : Progress} (h : s₀.Stands d.session)
    (hp : p.Sound s₀.maxLogLength) :
    Ensures (if d.session.extended then readChunks t d.session.config.chunkSize d.session.chunkSize_pos p
      else readWhole t p) d (Upheld s₀) := by
  refine readRest_ensures (fun _ => ?_) fun _ => readWhole_upheld t h hp
  refine readChunks_upheld t d.session.chunkSize_pos d.session.chunkSize_dvd ?_ h hp
  rw [h.setup.config]
  exact hlimit

theorem readLogUnchecked_upheld (t : Transport σ) {d : Dialogue σ} (h : s₀.Stands d.session) :
    Ensures (readLogUnchecked t) d (Upheld s₀) := by
  refine readLogUnchecked_ensures (fun r d' => Upheld s₀ r d' ∧ ∀ p, r = .ok p → p.Sound s₀.maxLogLength) (Upheld s₀)
    ?_ ?_ ?_ ?_ ?_ ?_
  · exact fun p hp => ⟨.ok h p, by rintro q ⟨⟩; exact h.kept p hp⟩
  · exact fun _ => readHeader_upheld t h
  · exact fun p d₁ h₁ => readRest_upheld hlimit t h₁.1.stands (h₁.2 p rfl)
  · exact fun e d₁ h₁ => h₁.1.passed
  · exact fun e d₁ h₁ => h₁.passed
  · exact fun p d₁ h₁ w _ => .ok h₁.stands.dropProgress _

theorem readLog_upheld (t : Transport σ) {d : Dialogue σ} (h : s₀.Stands d.session) :
    Ensures (readLog t) d (Upheld s₀) :=
  readLog_ensures (fun _ => readLogUnchecked_upheld hlimit t h) (fun _ => .error h rfl) fun _ => .error h rfl

end

theorem establish_upheld (t : Transport σ) {d : Dialogue σ} (h : s₀.Stands d.session) :
    Ensures (establish t) d (Upheld s₀) := by
  refine establish_ensures (getLog_header_upheld t .establish h.dropProgress) ?_ ?_ ?_
  · exact fun e d₁ h₁ => h₁.1.passed
  · exact fun status d₁ h₁ _ w _ => .ok (h₁.1.stands.believing _) ()
  · exact fun status d₁ h₁ _ _ w _ => .error (h₁.1.stands.believing _) rfl

theorem release_upheld (t : Transport σ) {d : Dialogue σ} (h : s₀.Stands d.session) :
    Ensures (release t) d (Upheld s₀) := by
  refine release_ensures (getLog_header_upheld t .release h) ?_
  rintro r d₁ ⟨hupheld, -⟩ w -
  have hstands := hupheld.stands.believing .notEstablished
  cases r with
  | error e => exact .error hstands (hupheld.external e rfl)
  | ok status => exact .ok hstands ()

theorem checkContext_upheld (t : Transport σ) {d : Dialogue σ} (h : s₀.Stands d.session) :
    Ensures (checkContext t) d (Upheld s₀) := by
  refine checkContext_ensures (getLog_header_upheld t .read h) ?_ ?_
  · exact fun e d₁ h₁ => h₁.1.passed
  · exact fun status d₁ h₁ w _ => .ok (h₁.1.stands.believing _) _

theorem retrieve_upheld (hlimit : min s₀.config.chunkSize s₀.maxLogLength ≤ 2 ^ 34) (t : Transport σ) {d : Dialogue σ}
    (h : s₀.Stands d.session) : Ensures (retrieve t) d (Upheld s₀) := by
  refine retrieve_ensures (Upheld s₀) (establish_upheld t h) (fun d₁ h₁ => readLog_upheld hlimit t h₁.stands) ?_ ?_
  · exact fun e d₁ h₁ => h₁.passed
  · exact fun r d₂ h₂ => (release_upheld t h₂.stands).mono fun _ d₃ h₃ w _ => ⟨h₃.stands, h₂.external⟩

/-- **Every operation** keeps what the session stands on, and ends with no internal error. -/
theorem perform_upheld (hlimit : min s₀.config.chunkSize s₀.maxLogLength ≤ 2 ^ 34) (t : Transport σ) (op : Operation)
    {d : Dialogue σ} (h : s₀.Stands d.session) : Ensures (op.perform t) d (Upheld s₀) := by
  have hlog : ∀ {x : SessionAction σ Log}, Ensures x d (Upheld s₀) → Ensures (do return some (← x)) d (Upheld s₀) :=
    fun hx => hx.bind (fun log d₁ h₁ => .pure (.ok h₁.stands _)) fun e d₁ h₁ => h₁.passed
  have hnone : ∀ {β : Type} {x : SessionAction σ β}, Ensures x d (Upheld s₀) →
      Ensures (do let _ ← x; return (none : Option Log)) d (Upheld s₀) :=
    fun hx => hx.bind (fun b d₁ h₁ => .pure (.ok h₁.stands _)) fun e d₁ h₁ => h₁.passed
  cases op with
  | establish => exact hnone (establish_upheld t h)
  | readLog => exact hlog (readLog_upheld hlimit t h)
  | readLogUnchecked => exact hlog (readLogUnchecked_upheld hlimit t h)
  | checkContext => exact hnone (checkContext_upheld t h)
  | release => exact hnone (release_upheld t h)
  | retrieve => exact hlog (retrieve_upheld hlimit t h)

/-! ## Runs -/

/-- A new session stands. -/
theorem Session.stands_new {extended : Bool} {config : Config} {s : Session} (h : Session.new extended config = .ok s) :
    s.Stands s := by
  unfold Session.new at h
  split at h
  · cases h
    have hsize : (DataBuffer.zeroed (max config.chunkSize headerLength)).size = max config.chunkSize headerLength :=
      Bytes.length_zeros _
    refine ⟨.refl _, ?_, ?_, fun p hp => by cases hp⟩
    · exact (Nat.le_max_right ..).trans_eq hsize.symm
    · exact (Nat.le_max_left ..).trans_eq hsize.symm
  · cases h

/-- The sessions that operations lead to stand. -/
theorem Reaches.stands {t : Transport σ} {between : Dialogue σ → World σ → Prop} {d : Dialogue σ}
    (h : Reaches t between d)
    (hlimit : min d.session.config.chunkSize d.session.maxLogLength ≤ 2 ^ 34) : d.session.Stands d.session := by
  induction h with
  | new h _ => exact Session.stands_new h
  | probe h =>
    obtain ⟨_, _, s₁, -, hnew, rfl⟩ := probe_eq_ok h
    obtain ⟨-, hheader, hchunk, -⟩ := Session.stands_new hnew
    have hnone : s₁.progress = none := (Session.fresh_new hnew).progress
    refine ⟨.refl _, hheader, hchunk, fun p hp => ?_⟩
    cases hnone.symm.trans hp
  | @perform op d h ih =>
    -- an operation keeps the setup, and so the limit held before it
    have hsetup := (perform_transcript t h.sound op).2.1
    rw [hsetup.config, hsetup.maxLogLength] at hlimit
    obtain ⟨-, hheader, hchunk, hkept⟩ := (perform_upheld hlimit t op (ih hlimit)).stands
    refine ⟨.refl _, hheader, ?_, ?_⟩
    · rw [hsetup.config]
      exact hchunk
    · rw [hsetup.maxLogLength]
      exact hkept
  | idle _ _ ih => exact ih hlimit

end StorageCommands.EventLog
