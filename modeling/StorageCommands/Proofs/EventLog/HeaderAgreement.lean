import StorageCommands.Proofs.EventLog.Conformance
import StorageCommands.Proofs.EventLog.KeptRead
import StorageCommands.Proofs.EventLog.LengthLimit
import StorageCommands.Proofs.EventLog.Resume

/-!
# Whether a log agrees with its header

A log comes with a header, which was decoded when the read of the log began (`Reaches.headerRun`). If the log is put
together from chunks, it begins with the bytes of that header. If the controller takes no offsets, a log that is longer
than its header is read in one piece with the header (`Log.ReadBy`), and nothing compares the two headers.

- `header_agreement`: so the log agrees with its header whatever the device answers if the controller takes offsets or
  the header is all of the log. Otherwise it agrees if the bytes of that one command do, which they do for a controller
  whose context other hosts leave alone, during the calls (`LogController.answers`) and between them
  (`LogController.Undisturbed`).
- `header_disagrees`: if another host replaces the context between two calls, they do not.
-/

namespace StorageCommands.EventLog

open Nvme

variable {σ : Type} {t : Transport σ}

/-- The bytes of the log are what one command received that asked for all of it. -/
structure Log.ReadBy (log : Log) (e : Exchange) : Prop where
  requests : ∃ total, log.header.alignedLength = some total ∧ Requests e.command .read 0 total
  succeeded : e.succeeded = true
  bytes : log.bytes = e.received.take log.header.totalLogLength.toNat

/-- A log that was read by one command agrees with its header if what the command received does. -/
theorem Log.ReadBy.decode_iff {log : Log} {e : Exchange} (h : log.ReadBy e)
    (hl : headerLength ≤ log.header.totalLogLength.toNat) :
    Header.decode log.bytes = .ok log.header ↔ Header.decode e.received = .ok log.header := by
  rw [h.bytes, Header.decode_take hl]

/-- A log that is cut from an image agrees with its header. -/
theorem Log.CutFrom.decode {log : Log} {image : Bytes} (h : log.CutFrom image)
    (hl : headerLength ≤ log.header.totalLogLength.toNat) : Header.decode log.bytes = .ok log.header := by
  have htake : (image.window 0 log.header.totalLogLength.toNat).take headerLength = image.window 0 headerLength := by
    rw [Bytes.take_window, Nat.min_eq_left hl]
  rw [h.bytes, ← Header.decode_take (Nat.le_refl headerLength), htake]
  exact h.header

/-! ## The header of a log -/

/-- A read has one header, to its end. -/
theorem Ends.header_eq {p : Progress} {stop : Nat} {r : Except Error Log} {kept : Option Progress} {header : Header}
    (h : Ends p stop r kept) (hof : (∃ log, r = .ok log ∧ log.header = header) ∨ ∃ p' ∈ kept, p'.header = header) :
    p.header = header := by
  cases h with
  | finished _ hlog =>
    rcases hof with ⟨log, hr, rfl⟩ | ⟨p', hp', -⟩
    · cases hr
      exact hlog.symm
    · cases hp'
  | failed _ hkept =>
    rcases hof with ⟨log, hr, -⟩ | ⟨p', hp', rfl⟩
    · cases hr
    · exact (hkept p' hp').1.symm

/-- A log that is given, and a read that is kept, has the header that the read went by. -/
theorem LogReads.headerOf {s : Session} {es : List Exchange} {r : Except Error Log} {kept : Option Progress}
    {header : Header} (h : LogReads s es r kept)
    (hof : (∃ log, r = .ok log ∧ log.header = header) ∨ ∃ p ∈ kept, p.header = header) :
    s.headerOf es = some header := by
  cases h with
  | resumed hp _ he => rw [Session.headerOf_of_some hp, he.header_eq hof]
  | unread _ _ _ =>
    rcases hof with ⟨log, hr, -⟩ | ⟨p, hp, -⟩
    · cases hr
    · cases hp
  | begun hp _ hs hh _ _ _ he => exact (Session.headerOf_cons hp).2 ⟨hs, he.header_eq hof ▸ hh⟩

/-- So has every log that an operation gives, and every read that is kept after it. -/
theorem Transcript.headerOf {s : Session} {op : Operation} {es : List Exchange} {r : Except Error (Option Log)}
    {kept : Option Progress} {header : Header} (h : Transcript s op es r kept)
    (hof : (∃ log, r = .ok (some log) ∧ log.header = header) ∨ ∃ p ∈ kept, p.header = header) :
    (op.reader s).headerOf (op.reading es) = some header := by
  have hmapped {r' : Except Error Log} (hr : r = r'.map some) :
      (∃ log, r = .ok (some log) ∧ log.header = header) → ∃ log, r' = .ok log ∧ log.header = header := by
    rintro ⟨log, hlog, hheader⟩
    refine ⟨log, ?_, hheader⟩
    cases r' with
    | error e => cases hr.symm.trans hlog
    | ok log' =>
      cases hr.symm.trans hlog
      rfl
  -- a read that was kept before, and has not been touched
  have hsame (hr : ∀ log, r ≠ .ok (some log)) (hkept : kept = s.progress ∨ kept = none) :
      s.headerOf [] = some header := by
    obtain ⟨log, hlog, -⟩ | ⟨p, hp, rfl⟩ := hof
    · exact (hr log hlog).elim
    · rcases hkept with rfl | rfl
      · exact Session.headerOf_of_some hp []
      · cases hp
  cases op with
  | establish | release =>
    obtain ⟨hr, hkept, -⟩ := h
    exact hsame hr (Or.inr hkept)
  | checkContext =>
    obtain ⟨hr, hkept, -⟩ := h
    exact hsame hr hkept
  | readLogUnchecked =>
    obtain ⟨r', hr, hreads⟩ := h
    exact hreads.headerOf (hof.imp_left (hmapped hr))
  | readLog =>
    simp only [Transcript] at h
    split at h
    · obtain ⟨r', hr, hreads⟩ := h
      exact hreads.headerOf (hof.imp_left (hmapped hr))
    · obtain ⟨hkept, rfl, e, rfl⟩ := h
      exact hsame (noLog_error e) (Or.inl hkept)
  | retrieve =>
    obtain ⟨rfl, made, -, ⟨-, e, rfl⟩ | ⟨reads, released, r', kept', rfl, hr, hreads, -⟩⟩ := h
    · rcases hof with ⟨log, hlog, -⟩ | ⟨p, hp, -⟩
      · cases hlog
      · cases hp
    · rw [Operation.reading_retrieve]
      refine hreads.headerOf (Or.inl (hmapped hr (hof.resolve_right ?_)))
      rintro ⟨p, hp, -⟩
      cases hp

variable {between : Dialogue σ → World σ → Prop}

/-- An operation that goes by a header begins the read with that header, or goes on with it. -/
theorem HeaderRun.of_headerOf {d : Dialogue σ} (h : Reaches t between d)
    (hkept : ∀ p ∈ d.session.progress, ∃ rs es, HeaderRun t between p.header d rs es) (op : Operation) {header : Header}
    (hof : (op.reader d.session).headerOf (op.reading (op.exchanges t d)) = some header) :
    ∃ rs es, HeaderRun t between header ((op.perform t).run.run d).2 (rs ++ [((op.perform t).run.run d).1])
      (es ++ afterHeader (op.reader d.session) (op.reading (op.exchanges t d))) := by
  cases hp : (op.reader d.session).progress with
  | none =>
    cases hread : op.reading (op.exchanges t d) with
    | nil =>
      rw [hread, Session.headerOf, hp] at hof
      cases hof
    | cons e es =>
      rw [hread] at hof
      obtain ⟨hs, hh⟩ := (Session.headerOf_cons hp).1 hof
      refine ⟨[], [], ?_⟩
      rw [afterHeader, hp]
      exact .start op h hp hread hs hh
  | some p =>
    rw [Session.headerOf_of_some hp] at hof
    cases hof
    have hop : op ≠ .retrieve := by
      rintro rfl
      cases hp
    obtain ⟨rs, es, hrun⟩ := hkept p (by rwa [Operation.reader_of_ne hop] at hp)
    refine ⟨rs, es, ?_⟩
    rw [afterHeader, hp]
    exact hrun.perform op (hp ▸ Option.some_ne_none p)

/-- **Every read that is kept** began with the read of its header. -/
theorem Reaches.headerRun {d : Dialogue σ} (h : Reaches t between d) :
    ∀ p ∈ d.session.progress, ∃ rs es, HeaderRun t between p.header d rs es := by
  induction h with
  | new h _ =>
    intro p hp
    cases (Session.fresh_new h).progress.symm.trans hp
  | probe h =>
    intro p hp
    cases (fresh_probe h).progress.symm.trans hp
  | idle _ hw ih =>
    intro p hp
    obtain ⟨rs, es, hrun⟩ := ih p hp
    exact ⟨rs, es, hrun.idle hw⟩
  | perform op h ih =>
    intro p hp
    have hof := (perform_transcript t h.sound op).1.headerOf (Or.inr ⟨p, hp, rfl⟩)
    obtain ⟨rs, es, hrun⟩ := HeaderRun.of_headerOf h ih op hof
    exact ⟨_, _, hrun⟩

/-! ## Reading in one piece -/

/-- The commands with which an operation reads the log are among its commands. -/
theorem Operation.mem_of_mem_reading {op : Operation} {es : List Exchange} {e : Exchange} (h : e ∈ op.reading es) :
    e ∈ es := by
  cases op with
  | readLog | readLogUnchecked => exact h
  | retrieve => exact List.mem_of_mem_tail (List.dropLast_subset _ h)
  | establish | checkContext | release => cases h

/-- There is one command after the header, and it read the log. -/
def ReadWhole (s : Session) (es : List Exchange) (log : Log) : Prop := ∃ e, afterHeader s es = [e] ∧ log.ReadBy e

/-- The rest of a log that is longer than its header is read by one command. -/
theorem readWhole_received (t : Transport σ) {d : Dialogue (Recorded σ)} {p : Progress} {maxLogLength : Nat}
    (hs : p.Sound maxLogLength) (hlt : p.offset < p.total) : Ensures (readWhole t.recording p) d fun r d' =>
      ∀ q, r = .ok q → q.header = p.header ∧ ∃ e, d'.exchanges = d.exchanges ++ [e]
        ∧ Requests e.command .read 0 p.total ∧ e.succeeded = true ∧ q.data = e.received := by
  by_cases hle : p.total ≤ maxShortTransfer
  · have hmod := alignedLength_mod hs.total
    have hshort : p.total ≤ 2 ^ 34 := Nat.le_trans hle (by decide)
    refine readWhole_ensures (getLog_sent t .read (by decide) rfl (by omega) hmod hshort d) ?_ ?_ ?_ ?_ ?_
    · exact fun hge => absurd hlt (Nat.not_lt.2 hge)
    · exact fun _ _ _ hr => by cases hr
    · exact fun _ _ _ _ _ hr => by cases hr
    · exact fun _ _ _ _ _ _ _ _ _ _ _ hr => by cases hr
    · intro _ status d₁ h₁ hok w hw q hq
      cases hq
      obtain ⟨e, hrecord, hrequests, hsucceeded, hbytes, -⟩ := h₁.succeeded hok
      exact ⟨rfl, e, (congrArg Recorded.exchanges hw).trans hrecord, hrequests, hsucceeded, hbytes⟩
  · unfold readWhole
    rw [if_neg (Nat.not_le.2 hlt), if_pos (Nat.lt_of_not_le hle)]
    exact .seq (.throw fun _ hr => by cases hr)

/-- **Without offsets** a log that is longer than its header is read by one command. -/
theorem readLogUnchecked_whole (t : Transport σ) {d : Dialogue (Recorded σ)} (hx : d.session.extended = false)
    (hs : d.session.Sound) : Ensures (readLogUnchecked t.recording) d fun r d' => ∀ log, r = .ok log →
      headerLength < log.header.totalLogLength.toNat →
        ∃ es, d'.exchanges = d.exchanges ++ es ∧ ReadWhole d.session es log := by
  refine readLogUnchecked_ensures
    (fun r d₁ => ∀ p, r = .ok p → p.Sound d₁.session.maxLogLength ∧ d₁.session.extended = false
      ∧ (headerLength < p.total → p.offset < p.total)
      ∧ ∃ es, d₁.exchanges = d.exchanges ++ es ∧ ∀ e, afterHeader d.session (es ++ [e]) = [e])
    (fun r d₂ => ∀ q, r = .ok q → headerLength < q.header.totalLogLength.toNat →
      ∃ es, d₂.exchanges = d.exchanges ++ es
        ∧ ReadWhole d.session es ⟨q.header, q.data.take q.header.totalLogLength.toNat⟩) ?_ ?_ ?_ ?_ ?_ ?_
  · intro p hp p' hp'
    cases hp'
    obtain ⟨hsound, hlt⟩ := hs p hp
    refine ⟨hsound, hx, fun _ => hlt, [], (List.append_nil _).symm, fun e => ?_⟩
    rw [afterHeader, hp]
    rfl
  · intro hp
    refine (readHeader_begins t hp).mono fun r d₁ h₁ p hr => ?_
    subst hr
    obtain ⟨-, hsound, hoffset, hsetup, x, hrecord, -⟩ := h₁
    refine ⟨hsound, hsetup.extended.trans hx, fun hlt => hoffset ▸ hlt, [x], hrecord, fun e => ?_⟩
    rw [afterHeader, hp]
    rfl
  · intro p d₁ h₁
    obtain ⟨hsound, hx₁, hlt, es, hbegun, hafter⟩ := h₁ p rfl
    rw [hx₁, if_neg Bool.false_ne_true]
    by_cases hlong : headerLength < p.total
    · refine (readWhole_received t hsound (hlt hlong)).mono fun r d₂ h₂ q hr _ => ?_
      obtain ⟨hheader, e, hrecord, hrequests, hsucceeded, hdata⟩ := h₂ q hr
      refine ⟨es ++ [e], by rw [hrecord, hbegun, List.append_assoc], e, hafter e, ⟨p.total, ?_, hrequests⟩,
        hsucceeded, by rw [hdata]⟩
      rw [hheader]
      exact hsound.total
    · -- the header is all of the log
      have hdone : p.total ≤ p.offset := Nat.le_trans (Nat.le_of_not_lt hlong) hsound.begun
      unfold readWhole
      rw [if_pos hdone]
      refine .pure fun q hq hl => ?_
      cases hq
      exact absurd (Nat.lt_of_lt_of_le hl (alignedLength_bounds hsound.total).1) hlong
  · exact fun e d₁ _ _ hr => by cases hr
  · exact fun e d₁ _ _ hr => by cases hr
  · intro q d₂ h₂ w hw log hlog
    cases hlog
    intro hlong
    obtain ⟨es, hrecord, hread⟩ := h₂ q rfl hlong
    exact ⟨es, (congrArg Recorded.exchanges hw).trans hrecord, hread⟩

theorem readLog_whole (t : Transport σ) {d : Dialogue (Recorded σ)} (hx : d.session.extended = false)
    (hs : d.session.Sound) : Ensures (readLog t.recording) d fun r d' => ∀ log, r = .ok log →
      headerLength < log.header.totalLogLength.toNat →
        ∃ es, d'.exchanges = d.exchanges ++ es ∧ ReadWhole d.session es log :=
  readLog_ensures (fun _ => readLogUnchecked_whole t hx hs) (fun _ _ hr => by cases hr) fun _ _ hr => by cases hr

theorem retrieve_whole (t : Transport σ) {d : Dialogue (Recorded σ)} (hx : d.session.extended = false) :
    Ensures (retrieve t.recording) d fun r d' => ∀ log, r = .ok log → headerLength < log.header.totalLogLength.toNat →
      ∃ made es released, d'.exchanges = d.exchanges ++ (made :: es ++ [released])
        ∧ ReadWhole (Operation.retrieve.reader d.session) es log := by
  refine retrieve_ensures (fun r d₂ => ∀ log, r = .ok log → headerLength < log.header.totalLogLength.toNat →
    ∃ made es, d₂.exchanges = d.exchanges ++ made :: es
      ∧ ReadWhole (Operation.retrieve.reader d.session) es log) (establish_one t d) ?_ ?_ ?_
  · rintro d₁ ⟨⟨hsetup, hprogress, made, hmade, -⟩, -⟩
    refine (readLog_whole t (hsetup.extended.trans hx) (.of_none hprogress)).mono fun r d₂ h₂ log hlog hlong => ?_
    obtain ⟨es, hrecord, hread⟩ := h₂ log hlog hlong
    refine ⟨made, es, by rw [hrecord, hmade, List.append_assoc, List.singleton_append], ?_⟩
    obtain ⟨e, he, hby⟩ := hread
    rw [afterHeader, hprogress] at he
    exact ⟨e, he, hby⟩
  · exact fun e d₁ _ _ hr => by cases hr
  · intro r d₂ h₂
    refine (release_one t d₂).mono fun _ d₃ h₃ w hw log hlog hlong => ?_
    obtain ⟨made, es, hrecord, hread⟩ := h₂ log hlog hlong
    obtain ⟨released, hreleased, -⟩ := h₃.exchange
    refine ⟨made, es, released, ?_, hread⟩
    rw [← List.append_assoc, ← hrecord, ← hreleased]
    exact congrArg Recorded.exchanges hw

theorem perform_whole (t : Transport σ) {d : Dialogue (Recorded σ)} (hx : d.session.extended = false)
    (hs : d.session.Sound) (op : Operation) : Ensures (op.perform t.recording) d fun r d' => ∀ log, r = .ok (some log) →
      headerLength < log.header.totalLogLength.toNat →
        ∃ es, d'.exchanges = d.exchanges ++ es ∧ ReadWhole (op.reader d.session) (op.reading es) log := by
  have hnone {r : Except Error (Option Log)} {p : Log → Prop} (hr : NoLog r) : ∀ log, r = .ok (some log) → p log :=
    fun log hlog => (hr log hlog).elim
  have hsome {r : Except Error Log} {p : Log → Prop} (h : ∀ log, r = .ok log → p log) :
      ∀ log, r.map some = .ok (some log) → p log := by
    intro log hr
    cases r with
    | error e => cases hr
    | ok log' =>
      cases hr
      exact h log rfl
  cases op with
  | establish => exact .noLog ((establish_one t d).mono fun _ _ _ _ hr => hnone hr)
  | readLog => exact .log ((readLog_whole t hx hs).mono fun _ _ h => hsome h)
  | readLogUnchecked => exact .log ((readLogUnchecked_whole t hx hs).mono fun _ _ h => hsome h)
  | checkContext => exact .noLog ((checkContext_leaves t hs).mono fun _ _ _ _ hr => hnone hr)
  | release => exact .noLog ((release_one t d).mono fun _ _ _ _ hr => hnone hr)
  | retrieve =>
    refine .log ((retrieve_whole t hx).mono fun _ _ h => hsome fun log hlog hlong => ?_)
    obtain ⟨made, es, released, hrecord, hread⟩ := h log hlog hlong
    exact ⟨_, hrecord, by rwa [Operation.reading_retrieve]⟩

/-- **Without offsets** an operation that gives a log longer than its header has one command after the header, and that
read the log. -/
theorem readWhole_of_perform (t : Transport σ) {d d' : Dialogue σ} (hx : d.session.extended = false)
    (hs : d.session.Sound) {op : Operation} {log : Log} (hrun : (op.perform t).run.run d = (.ok (some log), d'))
    (hlong : headerLength < log.header.totalLogLength.toNat) :
    ReadWhole (op.reader d.session) (op.reading (op.exchanges t d)) log := by
  have hwhole := perform_whole t (d := d.recorded) hx hs op
  unfold Ensures at hwhole
  rw [perform_recording t op d] at hrun
  obtain ⟨es, hrecord, hread⟩ := hwhole log (congrArg Prod.fst hrun) hlong
  have hes : op.exchanges t d = es := hrecord
  rwa [hes]

/-! ## Agreement -/

/-- A header with a length of whole header size rounds to itself. -/
theorem alignedLength_of_eq {h : Header} (hl : h.totalLogLength.toNat = headerLength) :
    h.alignedLength = some headerLength := by
  rw [Header.alignedLength, hl]
  rfl

/-- **Whether a log agrees with its header.** The header of a log is the one that the read of the log began with, in the
call that gives the log or in an earlier one (`HeaderRun`).

The log agrees with it, whatever the device answers, if the controller takes offsets or the header is all of the log.
Otherwise the bytes are what one later command of the same call received, which asked for all of the log, header
included, and the log agrees with its header exactly if those bytes decode to it.

They do if the device is a controller that answers every command of a call from its own context, which it may lose at
any moment but which no other host replaces (`LogController.answers`), and if between two calls other hosts make no
context while the session keeps a read (`LogController.Undisturbed`). -/
theorem header_agreement {between : Dialogue σ → World σ → Prop} {d d' : Dialogue σ} (h : Reaches t between d)
    {op : Operation} {log : Log} (hrun : (op.perform t).run.run d = (.ok (some log), d'))
    (hl : headerLength ≤ log.header.totalLogLength.toNat) :
    (∃ rs es, HeaderRun t between log.header d' (rs ++ [.ok (some log)]) es
        ∧ (d.session.extended = false → headerLength < log.header.totalLogLength.toNat →
          ∃ e ∈ op.exchanges t d, es.getLast? = some e ∧ log.ReadBy e
            ∧ (Header.decode log.bytes = .ok log.header ↔ Header.decode e.received = .ok log.header)))
      ∧ (d.session.extended = true ∨ log.header.totalLogLength.toNat = headerLength →
        Header.decode log.bytes = .ok log.header)
      ∧ ∀ c : LogController σ, c.transport = t → (∀ d w, between d w → c.Undisturbed d w) →
        Header.decode log.bytes = .ok log.header := by
  refine ⟨?_, fun hall => ?_, ?_⟩
  · have hof := (perform_transcript t h.sound op).1.headerOf (Or.inl ⟨log, by rw [hrun], rfl⟩)
    obtain ⟨rs, es, hread⟩ := HeaderRun.of_headerOf h h.headerRun op hof
    rw [hrun] at hread
    refine ⟨rs, _, hread, fun hx hlong => ?_⟩
    obtain ⟨e, he, hby⟩ := readWhole_of_perform t hx h.sound hrun hlong
    have hmem : e ∈ op.exchanges t d := Operation.mem_of_mem_reading (mem_of_mem_afterHeader (by rw [he]; simp))
    refine ⟨e, hmem, ?_, hby, hby.decode_iff hl⟩
    rw [he, List.getLast?_concat]
  · have hended := perform_ended t h.keeps op
    unfold Ensures at hended
    rw [hrun] at hended
    exact (hended.opens log rfl (hall.imp_right alignedLength_of_eq)).decode hl
  · rintro c rfl hb
    have hsound := perform_sound (h.consistent hb) op
    unfold Ensures at hsound
    rw [hrun] at hsound
    obtain ⟨image, -, hcut⟩ := hsound.2 log rfl
    exact hcut.decode hl

namespace Scripted

/-- While the session does not know whether there is a context, another host replaces it. -/
def usurpedWhole : Dialogue Scripted :=
  { interruptedWhole with world.device := { interruptedWhole.world.device with context := some (image 9) } }

end Scripted

open Scripted in
/-- A read in one piece that was cut off is done again, and the log agrees with the header of the first read. -/
theorem header_agreement_interrupted : ∃ log d,
    (Operation.readLogUnchecked.perform controller.transport).run.run interruptedWhole = (.ok (some log), d)
      ∧ headerLength < log.header.totalLogLength.toNat
      ∧ (∃ rs es, HeaderRun controller.transport controller.Undisturbed log.header d (rs ++ [.ok (some log)]) es
        ∧ ∃ e ∈ Operation.readLogUnchecked.exchanges controller.transport interruptedWhole,
          es.getLast? = some e ∧ log.ReadBy e)
      ∧ Header.decode log.bytes = .ok log.header := by
  have hread : ((Operation.readLogUnchecked.perform controller.transport).run.run
        interruptedWhole).1.toOption.join.any
        (fun log => decide (headerLength < log.header.totalLogLength.toNat)) = true
      ∧ interruptedWhole.session.extended = false := by decide +kernel
  obtain ⟨hread, hx⟩ := hread
  obtain ⟨log, d, hrun, hlong⟩ := exists_log hread
  have hlong := of_decide_eq_true hlong
  obtain ⟨⟨rs, es, hread, hwhole⟩, -, hundisturbed⟩ :=
    header_agreement (reaches_interruptedWhole controller.Undisturbed) hrun (Nat.le_of_lt hlong)
  obtain ⟨e, he, hlast, hby, -⟩ := hwhole hx hlong
  exact ⟨log, d, hrun, hlong, ⟨rs, es, hread, e, he, hlast, hby⟩, hundisturbed controller rfl fun _ _ h => h⟩

open Scripted in
/-- **Another context is not noticed**: the header is the one of the context that was lost, and the bytes are those of
the context that took its place. -/
theorem header_disagrees : ∃ d log d', Reaches controller.transport (fun d _ => d.session.state = .unknown) d
    ∧ (Operation.readLogUnchecked.perform controller.transport).run.run d = (.ok (some log), d')
    ∧ headerLength ≤ log.header.totalLogLength.toNat ∧ Header.decode log.bytes ≠ .ok log.header := by
  have hread : ((Operation.readLogUnchecked.perform controller.transport).run.run usurpedWhole).1.toOption.join.any
        (fun log => decide (headerLength ≤ log.header.totalLogLength.toNat
          ∧ Header.decode log.bytes ≠ .ok log.header)) = true
      ∧ interruptedWhole.session.state = .unknown := by decide +kernel
  obtain ⟨hread, hunknown⟩ := hread
  obtain ⟨log, d, hrun, hlog⟩ := exists_log hread
  obtain ⟨hl, hdecode⟩ := of_decide_eq_true hlog
  exact ⟨usurpedWhole, log, d, .idle (reaches_interruptedWhole _) hunknown, hrun, hl, hdecode⟩

end StorageCommands.EventLog
