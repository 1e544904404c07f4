import StorageCommands.Proofs.EventLog.Partition
import StorageCommands.Proofs.EventLog.ReadResult
import StorageCommands.Proofs.EventLog.ShortTransfers

/-!
# The length of a log that is read

A header reports the length of its log, which is rounded up to whole units of 512 bytes (`Header.roundedLength`). A
session reads the log if the rounded length fits 64 bits, its own limit, and, where the controller takes no offsets, one
transfer (`Session.TooLong`). These are the two reasons for which a read fails with a log that is too long, taken
together (`Session.tooLong_iff`).

`HeaderRun` follows a read from call to call, as `ReadRun` does, from the call that read its header on. `length_limit`:
if the log is too long, the read fails at that call and has no other command; otherwise no call of it ever says so, and
all of its commands stay within the rounded length.
-/

namespace StorageCommands.EventLog

open Nvme

variable {σ : Type}

/-! ## Rounding -/

/-- The length of the log in whole units of 512 bytes, at least one of them, however long. -/
def Header.roundedLength (h : Header) : Nat := 512 * max 1 ((h.totalLogLength.toNat + 511) / 512)

/-- The length is rounded as 64 bits allow. -/
theorem Header.alignedLength_eq (h : Header) :
    h.alignedLength = if h.roundedLength < 2 ^ 64 then some h.roundedLength else none := by
  simp only [alignedLength, roundedLength, lengthUnit, Nat.mul_comm]
  rfl

theorem Header.roundedLength_of_alignedLength {h : Header} {total : Nat} (ht : h.alignedLength = some total) :
    h.roundedLength = total ∧ total < 2 ^ 64 := by
  rw [h.alignedLength_eq, Option.ite_none_right_eq_some, Option.some.injEq] at ht
  obtain ⟨hlt, rfl⟩ := ht
  exact ⟨rfl, hlt⟩

namespace Session

variable {s : Session} {h : Header}

/-- A log of this rounded length is not read. -/
def TooLong (s : Session) (length : Nat) : Prop :=
  2 ^ 64 ≤ length ∨ s.maxLogLength < length ∨ s.extended = false ∧ 2 ^ 18 < length

/-- **The limits of a session** are those of the header and of the transfer. -/
theorem tooLong_iff : s.TooLong h.roundedLength ↔ ∃ len, s.Exceeds h len ∨ s.Stuck h len := by
  rw [TooLong]
  by_cases hlt : h.roundedLength < 2 ^ 64
  · have ht : h.alignedLength = some h.roundedLength := by rw [h.alignedLength_eq, if_pos hlt]
    constructor
    · rintro (hle | hmax | ⟨hx, hlong⟩)
      · omega
      · exact ⟨_, Or.inl (Or.inr ⟨ht, hmax⟩)⟩
      · by_cases hmax : s.maxLogLength < h.roundedLength
        · exact ⟨_, Or.inl (Or.inr ⟨ht, hmax⟩)⟩
        · exact ⟨_, Or.inr ⟨ht, Nat.le_of_not_lt hmax, hx, hlong⟩⟩
    · rintro ⟨len, (⟨hnone, -⟩ | ⟨hsome, hmax⟩) | ⟨hsome, -, hx, hlong⟩⟩
      · cases hnone.symm.trans ht
      · cases hsome.symm.trans ht
        exact Or.inr (Or.inl hmax)
      · cases hsome.symm.trans ht
        exact Or.inr (Or.inr ⟨hx, hlong⟩)
  · have ht : h.alignedLength = none := by rw [h.alignedLength_eq, if_neg hlt]
    exact ⟨fun _ => ⟨_, Or.inl (Or.inl ⟨ht, rfl⟩)⟩, fun _ => Or.inl (Nat.le_of_not_lt hlt)⟩

/-- The length that is given as too long is not below the reported one. -/
theorem Exceeds.le {len : Nat} (he : s.Exceeds h len) : h.totalLogLength.toNat ≤ len := by
  rcases he with ⟨-, rfl⟩ | ⟨ht, -⟩
  · exact Nat.le_refl _
  · exact (alignedLength_bounds ht).1

theorem Stuck.le {len : Nat} (hs : s.Stuck h len) : h.totalLogLength.toNat ≤ len := (alignedLength_bounds hs.total).1

/-- The limits do not change. -/
theorem SameSetup.tooLong_iff {s' : Session} (hs : s.SameSetup s') {length : Nat} :
    s'.TooLong length ↔ s.TooLong length := by
  rw [TooLong, TooLong, hs.maxLogLength, hs.extended]

end Session

/-! ## Commands -/

/-- The command reads a part of the first `length` bytes of the log. -/
def ReadsWithin (length : Nat) (e : Exchange) : Prop :=
  ∃ offset len, Requests e.command .read offset len ∧ offset + len ≤ length

theorem Chunks.within {chunkSize total start stop : Nat} {es : List Exchange}
    (h : Chunks chunkSize total start es stop) :
    ∀ e ∈ es, ReadsWithin total e := by
  induction h with
  | nil _ => exact List.forall_mem_nil _
  | cons hlt hr _ _ ih => exact List.forall_mem_cons.2 ⟨⟨_, _, hr, by omega⟩, ih⟩

/-- **The rest of a log** is read within the log. -/
theorem Rest.within {s : Session} {total start stop : Nat} {es : List Exchange} (h : Rest s total start es stop) :
    ∀ e ∈ es, ReadsWithin total e := by
  cases h with
  | chunks _ h => exact h.within
  | failed _ h hlt hr _ =>
    exact List.forall_mem_append.2 ⟨h.within, List.forall_mem_singleton.2 ⟨_, _, hr, by omega⟩⟩
  | unsent _ h _ _ => exact h.within
  | header _ _ => exact List.forall_mem_nil _
  | refused _ _ _ => exact List.forall_mem_nil _
  | whole _ _ _ hr => exact List.forall_mem_singleton.2 ⟨_, _, hr, Nat.le_of_eq (Nat.zero_add _)⟩

/-- Of a log that is too long no rest is read. -/
theorem Rest.eq_nil {s : Session} {header : Header} {total start stop : Nat} {es : List Exchange}
    (h : Rest s total start es stop) (ht : header.alignedLength = some total) (hl : total ≤ s.maxLogLength)
    (hlong : s.TooLong header.roundedLength) : es = [] := by
  obtain ⟨hrounded, hlt⟩ := Header.roundedLength_of_alignedLength ht
  rw [hrounded] at hlong
  rcases hlong with hle | hmax | ⟨hx, hshort⟩
  · omega
  · omega
  · obtain hnil | ⟨_, -, hle, -⟩ := h.short hx
    · exact hnil
    · exact absurd hshort (Nat.not_lt.2 hle)

/-! ## One call -/

/-- After its header a call of a read reads the rest of the log that the header reports, or nothing. -/
theorem LogReads.rest_of_header {s : Session} {es : List Exchange} {r : Except Error Log} {kept : Option Progress}
    (h : LogReads s es r kept) (hs : s.Sound) {header : Header} (hof : s.headerOf es = some header) :
    (afterHeader s es = [] ∧ kept = none) ∨ ∃ total start stop, Rest s total start (afterHeader s es) stop
      ∧ header.alignedLength = some total ∧ total ≤ s.maxLogLength ∧ ∀ p ∈ kept, p.header = header := by
  have hkept : ∀ {p : Progress} {stop : Nat}, Ends p stop r kept → ∀ p' ∈ kept, p'.header = p.header := by
    rintro p stop (_ | ⟨_, hkept⟩)
    · exact fun _ hp' => by cases hp'
    · exact fun p' hp' => (hkept p' hp').1
  cases h with
  | @resumed p _ stop _ _ hp h he =>
    cases (Session.headerOf_of_some hp es).symm.trans hof
    obtain ⟨hsound, -⟩ := hs p hp
    have hall : afterHeader s es = es := by rw [afterHeader, hp]; rfl
    rw [hall]
    exact Or.inr ⟨_, _, _, h, hsound.total, hsound.bounded, hkept he⟩
  | @unread e err hp _ _ =>
    have hnone : afterHeader s [e] = [] := by rw [afterHeader, hp]; rfl
    exact Or.inl ⟨hnone, rfl⟩
  | @begun e p es stop _ _ hp _ _ hh ht hl h he =>
    obtain ⟨-, hdecode⟩ := (Session.headerOf_cons hp).1 hof
    cases hh.symm.trans hdecode
    have htail : afterHeader s (e :: es) = es := by rw [afterHeader, hp]; rfl
    rw [htail]
    exact Or.inr ⟨_, _, _, h, ht, hl, hkept he⟩

/-- What a call of a read with a header comes to, given its commands after the header. -/
structure Limited (s : Session) (header : Header) (es : List Exchange) (r : Except Error (Option Log)) : Prop where
  tooLong : s.TooLong header.roundedLength →
    es = [] ∧ ∃ len, r = .error (.logTooLarge len) ∧ header.totalLogLength.toNat ≤ len
  accepted : ¬ s.TooLong header.roundedLength → Accepted r ∧ ∀ e ∈ es, ReadsWithin header.roundedLength e

/-- **A call that reads the log** keeps to the header that it goes by. -/
theorem LogRead.limited {s : Session} {es : List Exchange} {r : Except Error Log} {kept : Option Progress}
    (h : LogRead s es r kept) (hs : s.Sound) {header : Header} (hof : s.headerOf es = some header) :
    Limited s header (afterHeader s es) (r.map some) ∧ ∀ p ∈ kept, p.header = header := by
  have hcommands : (s.TooLong header.roundedLength → afterHeader s es = [])
      ∧ (∀ e ∈ afterHeader s es, ReadsWithin header.roundedLength e) ∧ ∀ p ∈ kept, p.header = header := by
    obtain ⟨hnil, rfl⟩ | ⟨total, start, stop, hrest, ht, hl, hkept⟩ := h.reads.rest_of_header hs hof
    · rw [hnil]
      exact ⟨fun _ => rfl, List.forall_mem_nil _, fun _ hp => by cases hp⟩
    · refine ⟨hrest.eq_nil ht hl, ?_, hkept⟩
      rw [(Header.roundedLength_of_alignedLength ht).1]
      exact hrest.within
  obtain ⟨hnil, hwithin, hkept⟩ := hcommands
  refine ⟨⟨fun hlong => ⟨hnil hlong, ?_⟩, fun hshort => ⟨fun len hr => ?_, hwithin⟩⟩, hkept⟩
  · obtain ⟨len, he | hstuck⟩ := Session.tooLong_iff.1 hlong
    · exact ⟨len, by rw [(h.result.exceeds header hof len he).1]; rfl, he.le⟩
    · exact ⟨len, by rw [(h.result.stuck header hof len hstuck).1]; rfl, hstuck.le⟩
  · cases r with
    | ok log => cases hr
    | error e =>
      cases hr
      obtain ⟨header', hof', hreason⟩ := h.result.rejected len rfl
      cases Option.mem_unique hof' hof
      exact hshort (Session.tooLong_iff.2 ⟨len, hreason⟩)

/-- The session that reads the log is set up as the session of the operation. -/
theorem Session.sameSetup_reader (op : Operation) (s : Session) : s.SameSetup (op.reader s) := by
  unfold Operation.reader
  split
  · exact ⟨rfl, rfl, rfl⟩
  · exact .refl s

namespace Operation.Result

variable {op : Operation} {s : Session} {es : List Exchange} {r : Except Error (Option Log)} {kept : Option Progress}

/-- **The call that reads the header.** -/
theorem begins (h : op.Result s es r kept) (hp : (op.reader s).progress = none) {e : Exchange} {rest : List Exchange}
    (hread : op.reading es = e :: rest) (hs : e.succeeded = true) {header : Header}
    (hh : Header.decode e.received = .ok header) : Limited s header rest r ∧ ∀ p ∈ kept, p.header = header := by
  cases h with
  | idle hes _ _ _ => cases hes.symm.trans hread
  | @read r' kept' hop hr h hkept =>
    have hof : (op.reader s).headerOf (op.reading es) = some header := by
      rw [hread]
      exact (Session.headerOf_cons hp).2 ⟨hs, hh⟩
    obtain ⟨hlimited, hheader⟩ := h.limited (.of_none hp) hof
    have htail : EventLog.afterHeader (op.reader s) (op.reading es) = rest := by
      rw [EventLog.afterHeader, hp, hread]
      rfl
    rw [htail] at hlimited
    have hsame {length : Nat} : (op.reader s).TooLong length ↔ s.TooLong length :=
      (Session.sameSetup_reader op s).tooLong_iff
    refine ⟨⟨fun hlong => ?_, fun hshort => ?_⟩, ?_⟩
    · rw [hr]
      exact hlimited.tooLong (hsame.2 hlong)
    · rw [hr]
      exact hlimited.accepted fun hlong => hshort (hsame.1 hlong)
    · split at hkept
      · rw [hkept]
        exact fun _ hp' => by cases hp'
      · rwa [hkept]

/-- **A later call**: the header is the one that has been kept. -/
theorem continues (h : op.Result s es r kept) (hs : s.Sound) {p : Progress} (hp : (op.reader s).progress = some p) :
    (s.TooLong p.header.roundedLength → op.reading es = [] ∧ NoLog r)
      ∧ (¬ s.TooLong p.header.roundedLength →
        Accepted r ∧ ∀ e ∈ op.reading es, ReadsWithin p.header.roundedLength e)
      ∧ ∀ p' ∈ kept, p'.header = p.header := by
  have hop : op ≠ .retrieve := by
    rintro rfl
    cases hp
  have hreader : op.reader s = s := reader_of_ne hop s
  rw [hreader] at hp
  cases h with
  | idle hes hr ha hkept =>
    rw [hes]
    refine ⟨fun _ => ⟨rfl, hr⟩, fun _ => ⟨ha, List.forall_mem_nil _⟩, ?_⟩
    rcases hkept with rfl | rfl
    · intro p' hp'
      rw [Option.mem_unique hp' hp]
    · exact fun _ hp' => by cases hp'
  | @read r' kept' _ hr h hkept =>
    rw [if_neg hop] at hkept
    rw [hreader] at h
    obtain ⟨hlimited, hheader⟩ := h.limited hs (Session.headerOf_of_some hp _)
    have hall : EventLog.afterHeader s (op.reading es) = op.reading es := by
      rw [EventLog.afterHeader, hp]
      rfl
    rw [hall] at hlimited
    rw [hr, hkept]
    refine ⟨fun hlong => ?_, hlimited.accepted, hheader⟩
    obtain ⟨hnil, len, herror, -⟩ := hlimited.tooLong hlong
    rw [herror]
    exact ⟨hnil, noLog_error _⟩

end Operation.Result

/-! ## All calls -/

/-- A read of a log with a header, from the call that read the header on, as long as it is not given up: the results of
its calls, and its commands after the header. The header is what the first command of the read received, which asked for
it (`LogReads`). -/
inductive HeaderRun (t : Transport σ) (between : Dialogue σ → World σ → Prop) (header : Header) :
    Dialogue σ → List (Except Error (Option Log)) → List Exchange → Prop
  | start (op : Operation) {d : Dialogue σ} {e : Exchange} {es : List Exchange} (h : Reaches t between d)
      (hp : (op.reader d.session).progress = none) (hread : op.reading (op.exchanges t d) = e :: es)
      (hs : e.succeeded = true) (hh : Header.decode e.received = .ok header) :
      HeaderRun t between header ((op.perform t).run.run d).2 [((op.perform t).run.run d).1] es
  | perform (op : Operation) {d : Dialogue σ} {rs : List (Except Error (Option Log))} {es : List Exchange}
      (h : HeaderRun t between header d rs es) (hp : (op.reader d.session).progress ≠ none) :
      HeaderRun t between header ((op.perform t).run.run d).2 (rs ++ [((op.perform t).run.run d).1])
        (es ++ op.reading (op.exchanges t d))
  | idle {d : Dialogue σ} {w : World σ} {rs : List (Except Error (Option Log))} {es : List Exchange}
      (h : HeaderRun t between header d rs es) (hw : between d w) :
      HeaderRun t between header { d with world := w } rs es

namespace HeaderRun

variable {t : Transport σ} {between : Dialogue σ → World σ → Prop} {header : Header} {d : Dialogue σ}
  {rs : List (Except Error (Option Log))} {es : List Exchange}

theorem reaches (h : HeaderRun t between header d rs es) : Reaches t between d := by
  induction h with
  | start op h _ _ _ _ => exact .perform op h
  | perform op _ _ ih => exact .perform op ih
  | idle _ hw ih => exact .idle ih hw

/-- The calls of a read and the read that is kept are as the header says. -/
structure Bounded (header : Header) (s : Session) (rs : List (Except Error (Option Log))) (es : List Exchange) :
    Prop where
  kept : ∀ p ∈ s.progress, p.header = header
  tooLong : s.TooLong header.roundedLength → es = [] ∧ (∀ r ∈ rs, NoLog r)
    ∧ ∃ len, rs.head? = some (.error (.logTooLarge len)) ∧ header.totalLogLength.toNat ≤ len
  accepted : ¬ s.TooLong header.roundedLength →
    (∀ r ∈ rs, Accepted r) ∧ ∀ e ∈ es, ReadsWithin header.roundedLength e

/-- **Every call of a read** keeps to the header that the read began with. -/
theorem bounded (h : HeaderRun t between header d rs es) : Bounded header d.session rs es := by
  induction h with
  | idle _ _ ih => exact ih
  | @start op d e es h hp hread hs hh =>
    obtain ⟨-, hsetup, -⟩ := perform_transcript t h.sound op
    obtain ⟨hlimited, hkept⟩ := (perform_result t h.sound op).begins hp hread hs hh
    refine ⟨hkept, fun hlong => ?_, fun hshort => ?_⟩
    · obtain ⟨hnil, len, hr, hle⟩ := hlimited.tooLong (hsetup.tooLong_iff.1 hlong)
      rw [hr]
      exact ⟨hnil, List.forall_mem_singleton.2 (noLog_error _), len, rfl, hle⟩
    · obtain ⟨ha, hwithin⟩ := hlimited.accepted fun hlong => hshort (hsetup.tooLong_iff.2 hlong)
      exact ⟨List.forall_mem_singleton.2 ha, hwithin⟩
  | @perform op d rs es h hp ih =>
    obtain ⟨-, hsetup, -⟩ := perform_transcript t h.reaches.sound op
    obtain ⟨p, hp⟩ := Option.ne_none_iff_exists'.1 hp
    have hkept : p.header = header := ih.kept p (by
      unfold Operation.reader at hp
      split at hp
      · cases hp
      · exact hp)
    obtain ⟨htooLong, haccepted, hheader⟩ := (perform_result t h.reaches.sound op).continues h.reaches.sound hp
    rw [hkept] at htooLong haccepted hheader
    refine ⟨hheader, fun hlong => ?_, fun hshort => ?_⟩
    · have hlong' := hsetup.tooLong_iff.1 hlong
      obtain ⟨hnil, hnone, len, hhead, hle⟩ := ih.tooLong hlong'
      obtain ⟨hnil', hr⟩ := htooLong hlong'
      refine ⟨by rw [hnil, hnil', List.append_nil], ?_, len, by rw [List.head?_append, hhead]; rfl, hle⟩
      exact List.forall_mem_append.2 ⟨hnone, List.forall_mem_singleton.2 hr⟩
    · have hshort' : ¬ d.session.TooLong header.roundedLength := fun hlong => hshort (hsetup.tooLong_iff.2 hlong)
      obtain ⟨ha, hwithin⟩ := ih.accepted hshort'
      obtain ⟨ha', hwithin'⟩ := haccepted hshort'
      exact ⟨List.forall_mem_append.2 ⟨ha, List.forall_mem_singleton.2 ha'⟩,
        List.forall_mem_append.2 ⟨hwithin, hwithin'⟩⟩

end HeaderRun

/-- **The limit of the length.** A read whose header reports a log that is too long fails at once and has no command
after the header; no call of another read ever says that the log is too long, and all commands of it stay within the
rounded length. The limit of a session does not change, and a probe takes it from the configuration and from the size
that the controller reports. -/
theorem length_limit (t : Transport σ) (between : Dialogue σ → World σ → Prop) :
    (∀ header d rs es, HeaderRun t between header d rs es →
      (d.session.TooLong header.roundedLength → es = [] ∧ (∀ r ∈ rs, NoLog r)
        ∧ ∃ len, rs.head? = some (.error (.logTooLarge len)) ∧ header.totalLogLength.toNat ≤ len)
      ∧ (¬ d.session.TooLong header.roundedLength →
        (∀ r ∈ rs, ∀ len, r ≠ .error (.logTooLarge len)) ∧ ∀ e ∈ es, ReadsWithin header.roundedLength e))
    ∧ (∀ d, Reaches t between d → ∀ op : Operation,
      ((op.perform t).run.run d).2.session.maxLogLength = d.session.maxLogLength)
    ∧ ∀ config s w w', (probe t config).run.run w = (.ok s, w') →
      s.maxLogLength ≤ config.maxLogLength ∧ ∃ identity w₁, identifyController t w = (.ok identity, w₁)
        ∧ (identity.eventLogUnits.toNat ≠ 0 → s.maxLogLength ≤ identity.eventLogUnits.toNat * 65536) := by
  refine ⟨fun header d rs es h => ⟨h.bounded.tooLong, h.bounded.accepted⟩, fun d h op => ?_, fun config s w w' h => ?_⟩
  · exact (perform_transcript t h.sound op).2.1.maxLogLength
  · obtain ⟨identity, w₁, s₁, hidentified, hnew, rfl⟩ := probe_eq_ok h
    have hconfig := Session.maxLogLength_new hnew
    refine ⟨?_, identity, w₁, hidentified, fun hunits => ?_⟩
    · dsimp only
      split <;> omega
    · dsimp only
      rw [if_neg hunits]
      exact Nat.min_le_right _ _

namespace Scripted

/-- A context was established for a log of 1024 bytes, whose second half will be cut off once. -/
def awaiting : Dialogue Scripted :=
  ((Operation.establish.perform controller.transport).run.run
    ⟨session, ⟨{ images := [image 7], script := [.serve, .serve, .drop false] }, []⟩⟩).2

/-- A context was established for a log of 300000 bytes, with a controller that takes no offsets. -/
def farAway : Dialogue Scripted :=
  ((Operation.establish.perform controller.transport).run.run
    ⟨plainSession, ⟨{ images := [(Bytes.zeros 512).overwrite 8 [0xe0, 0x93, 0x04]] }, []⟩⟩).2

theorem reaches_awaiting (between : Dialogue Scripted → World Scripted → Prop) :
    Reaches controller.transport between awaiting :=
  .perform .establish (.new session_new _)

theorem reaches_farAway (between : Dialogue Scripted → World Scripted → Prop) :
    Reaches controller.transport between farAway :=
  .perform .establish (.new plainSession_new _)

/-- A controller that says that it has a persistent event log of up to 65536 bytes. -/
def identified : World Scripted :=
  ⟨{ context := some (((Bytes.zeros 356).overwrite 261 [0x10]).overwrite 352 [1]) }, []⟩

/-- A read begins with the header that its first command receives. -/
theorem exists_headerRun {between : Dialogue Scripted → World Scripted → Prop} {d : Dialogue Scripted}
    (h : Reaches controller.transport between d) (hp : d.session.progress = none) {length : Nat}
    (hread : (Operation.readLog.exchanges controller.transport d).head?.bind
      (fun e => if e.succeeded then (Header.decode e.received).toOption.map (·.roundedLength) else none)
        = some length) :
    ∃ header, header.roundedLength = length
      ∧ HeaderRun controller.transport between header ((Operation.readLog.perform controller.transport).run.run d).2
        [((Operation.readLog.perform controller.transport).run.run d).1]
        (Operation.readLog.exchanges controller.transport d).tail := by
  cases hes : Operation.readLog.exchanges controller.transport d with
  | nil =>
    rw [hes] at hread
    cases hread
  | cons e es =>
    rw [hes, List.head?_cons, Option.bind_some, Option.ite_none_right_eq_some] at hread
    obtain ⟨hs, hread⟩ := hread
    cases hh : Header.decode e.received with
    | error cause =>
      rw [hh] at hread
      cases hread
    | ok header =>
      rw [hh] at hread
      exact ⟨header, Option.some.inj hread, .start .readLog h hp hes hs hh⟩

end Scripted

open Scripted in
/-- A read that was cut off goes on within its log, a log of 300000 bytes is not read without offsets, and a controller
that reports 65536 bytes bounds the limit. -/
theorem length_limit_resumed :
    (∃ header rs es, HeaderRun controller.transport (fun _ _ => False) header
          ((Operation.readLogUnchecked.perform controller.transport).run.run interrupted).2 rs es
        ∧ header.roundedLength = 1024 ∧ es.map (fun e => (Emulated.offsetOf e.command, e.command.dataLength))
          = [(512, 512), (512, 512)]
        ∧ (∀ r ∈ rs, ∀ len, r ≠ .error (.logTooLarge len)) ∧ ∀ e ∈ es, ReadsWithin 1024 e)
      ∧ (∃ header rs es, HeaderRun controller.transport (fun _ _ => False) header
          ((Operation.readLog.perform controller.transport).run.run farAway).2 rs es
        ∧ header.roundedLength = 300032 ∧ es = [] ∧ ∃ len, rs.head? = some (.error (.logTooLarge len)))
      ∧ ∃ s w, (probe controller.transport { chunkSize := 512 }).run.run identified = (.ok s, w)
        ∧ s.maxLogLength ≤ 65536 := by
  obtain ⟨hruns, -, hprobe⟩ := length_limit controller.transport (fun _ _ => False)
  refine ⟨?_, ?_, ?_⟩
  · have hread : awaiting.session.progress = none
        ∧ (Operation.readLog.exchanges controller.transport awaiting).head?.bind (fun e =>
          if e.succeeded then (Header.decode e.received).toOption.map (·.roundedLength) else none) = some 1024 := by
      decide +kernel
    have hresumed : interrupted.session.progress ≠ none
        ∧ ((Operation.readLog.exchanges controller.transport awaiting).tail
            ++ Operation.readLogUnchecked.exchanges controller.transport interrupted).map
          (fun e => (Emulated.offsetOf e.command, e.command.dataLength)) = [(512, 512), (512, 512)]
        ∧ let d := ((Operation.readLogUnchecked.perform controller.transport).run.run interrupted).2
          d.session.maxLogLength = 256 * 2 ^ 20 ∧ d.session.extended = true := by decide +kernel
    obtain ⟨hkept, hcommands, hlimit, hextended⟩ := hresumed
    obtain ⟨header, hlength, hrun⟩ := exists_headerRun (reaches_awaiting fun _ _ => False) hread.1 hread.2
    have hinterrupted : ((Operation.readLog.perform controller.transport).run.run awaiting).2 = interrupted := rfl
    rw [hinterrupted] at hrun
    have hrun' := hrun.perform .readLogUnchecked (by rwa [Operation.reader_of_ne (by decide)])
    have hreading : ∀ es, Operation.readLogUnchecked.reading es = es := fun _ => rfl
    rw [hreading] at hrun'
    have hshort : ¬ ((Operation.readLogUnchecked.perform controller.transport).run.run
        interrupted).2.session.TooLong header.roundedLength := by
      rw [hlength, Session.TooLong, hlimit, hextended]
      decide
    obtain ⟨haccepted, hwithin⟩ := (hruns header _ _ _ hrun').2 hshort
    rw [hlength] at hwithin
    exact ⟨header, _, _, hrun', hlength, hcommands, haccepted, hwithin⟩
  · have hread : farAway.session.progress = none
        ∧ (Operation.readLog.exchanges controller.transport farAway).head?.bind (fun e =>
          if e.succeeded then (Header.decode e.received).toOption.map (·.roundedLength) else none) = some 300032
        ∧ ((Operation.readLog.perform controller.transport).run.run farAway).2.session.extended = false := by
      decide +kernel
    obtain ⟨hnone, hread, hextended⟩ := hread
    obtain ⟨header, hlength, hrun⟩ := exists_headerRun (reaches_farAway _) hnone hread
    have hlong : ((Operation.readLog.perform controller.transport).run.run
        farAway).2.session.TooLong header.roundedLength := by
      rw [hlength, Session.TooLong, hextended]
      exact Or.inr (Or.inr ⟨rfl, by decide⟩)
    obtain ⟨hnil, -, len, hhead, -⟩ := (hruns header _ _ _ hrun).1 hlong
    exact ⟨header, _, _, hrun, hlength, hnil, len, hhead⟩
  · have hunits : (identifyController controller.transport identified).1.toOption.map (·.eventLogUnits.toNat) = some 1
        ∧ ((probe controller.transport { chunkSize := 512 }).run.run identified).1.toOption.isSome = true := by
      decide +kernel
    obtain ⟨hunits, hsome⟩ := hunits
    rcases hrun : (probe controller.transport { chunkSize := 512 }).run.run identified with ⟨e | s, w⟩
    · rw [hrun] at hsome
      cases hsome
    · obtain ⟨-, identity, w₁, hidentified, hlimit⟩ := hprobe _ s _ w hrun
      rw [hidentified] at hunits
      have hone : identity.eventLogUnits.toNat = 1 := Option.some.inj hunits
      rw [hone] at hlimit
      exact ⟨s, w, rfl, hlimit (by decide)⟩

end StorageCommands.EventLog
