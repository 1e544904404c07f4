import StorageCommands.Proofs.EventLog.Conformance

/-!
# Retrieving the log releases the context

`retrieve` is put together from three operations. Where no context comes of `establish`, it ends there
(`retrieve_of_failed`). Otherwise the log is read and the context is released, and the result is that of the read
(`retrieve_of_established`).

- `retrieve_releases`: after a context was established, the last command is a release, and the only one, however the
  read and the release end. If none was established, nothing follows the command that asked for one.
-/

namespace StorageCommands.EventLog

open Nvme

variable {σ α : Type}

/-! ## The parts of a retrieval -/

/-- What an action does, as a condition on how it ends. -/
theorem Ensures.run (x : SessionAction σ α) (d : Dialogue σ) : Ensures x d fun r d' => x.run.run d = (r, d') := rfl

/-- Without a context, nothing follows. -/
theorem retrieve_of_failed {t : Transport σ} {d d₁ : Dialogue σ} {e : Error}
    (h : (establish t).run.run d = (.error e, d₁)) : (retrieve t).run.run d = (.error e, d₁) := by
  have hend : Ensures (retrieve t) d fun r d' => (r, d') = (.error e, d₁) := by
    refine retrieve_ensures (fun _ _ => False) (Ensures.run (establish t) d) ?_ ?_ ?_
    · intro d' hmade
      cases h.symm.trans hmade
    · intro e' d' hmade
      cases h.symm.trans hmade
      rfl
    · exact fun _ _ hread => hread.elim
  exact hend

/-- **With a context**, the result is that of the read, and the session is left as by the release. -/
theorem retrieve_of_established {t : Transport σ} {d d₁ d₂ : Dialogue σ} {u : Unit} {r : Except Error Log}
    (hmade : (establish t).run.run d = (.ok u, d₁)) (hread : (readLog t).run.run d₁ = (r, d₂)) :
    Ensures (retrieve t) d fun r' d' => r' = r ∧ d'.session = ((release t).run.run d₂).2.session
      ∧ d'.world.device = ((release t).run.run d₂).2.world.device := by
  refine retrieve_ensures (fun r' d' => r' = r ∧ d' = d₂) (Ensures.run (establish t) d) ?_ ?_ ?_
  · intro d' hmade'
    cases hmade.symm.trans hmade'
    refine (Ensures.run (readLog t) _).mono fun r' d'' hread' => ?_
    cases hread.symm.trans hread'
    exact ⟨rfl, rfl⟩
  · intro e d' hmade'
    cases hmade.symm.trans hmade'
  · rintro r' d' ⟨rfl, rfl⟩
    refine (Ensures.run (release t) d').mono fun r'' d'' hreleased w hw => ?_
    rw [hreleased]
    exact ⟨rfl, rfl, hw⟩

/-! ## What the parts leave behind -/

/-- A transfer of the header that gives no status leaves it open whether there is a context. -/
theorem getLog_header_unknown (t : Transport σ) (action : ContextAction) (d : Dialogue σ) :
    Ensures (getLog t action 0 headerLength) d fun r d' => ∀ e, r = .error e → d'.session.state = .unknown := by
  refine Ensures.getLog (fun e he => ?_) fun command _ result command' w _ w' _ => ?_
  · obtain ⟨command, hcommand⟩ : ∃ command,
        d.session.command action 0 headerLength (d.session.lend headerLength) = .ok command :=
      Session.exists_command (by decide) (by decide) (by decide) (d.session.le_size_lend headerLength)
    cases hcommand.symm.trans he
  · cases result with
    | ok status => exact fun e he => by cases he
    | error e => exact fun _ _ => rfl

/-- A context that could not be established leaves it open whether there is one. -/
theorem establish_unknown (t : Transport σ) (d : Dialogue σ) :
    Ensures (establish t) d fun r d' => ∀ e, r = .error e → d'.session.state = .unknown := by
  refine establish_ensures (getLog_header_unknown t .establish _) ?_ ?_ ?_
  · exact fun e d' h _ _ => h e rfl
  · exact fun _ _ _ _ _ _ _ he => by cases he
  · exact fun _ _ _ _ _ _ _ _ _ => rfl

/-- After a release there is no context, and no read is kept. -/
theorem release_ends (t : Transport σ) (d : Dialogue σ) :
    Ensures (release t) d fun _ d' => d'.session.state = .notEstablished ∧ d'.session.progress = none :=
  release_ensures (Ensures.run _ d) fun _ _ _ _ _ => ⟨rfl, rfl⟩

/-- Reading the log only reads. -/
theorem readLog_reads (t : Transport σ) {d : Dialogue (Recorded σ)} (hs : d.session.Sound) :
    Ensures (readLog t.recording) d fun _ d' => ∃ reads, d'.exchanges = d.exchanges ++ reads
      ∧ ∀ e ∈ reads, ∃ offset len, Requests e.command .read offset len := by
  refine (readLog_leaves t hs).mono fun r d' hleaves => ?_
  obtain ⟨⟨reads, hrecord, htranscript⟩, -, -⟩ := hleaves
  refine ⟨reads, hrecord, ?_⟩
  simp only [Transcript] at htranscript
  split at htranscript
  · obtain ⟨_, -, hreads⟩ := htranscript
    exact hreads.reads
  · obtain ⟨-, rfl, -⟩ := htranscript
    exact fun e he => absurd he List.not_mem_nil

/-! ## All of it -/

/-- A command of a session asks for one action only. -/
theorem Requests.action_unique {d : CommandDescriptor} {action action' : ContextAction} {offset offset' len len' : Nat}
    (h : Requests d action offset len) (h' : Requests d action' offset' len') : action = action' := by
  have hrequest : action.request offset len = action'.request offset' len' :=
    Except.ok.inj (h.request.symm.trans h'.request)
  have hcode : action.code.toNat = action'.code.toNat := congrArg LogPageRequest.parameter hrequest
  revert hcode
  cases action <;> cases action' <;> decide

/-- The last of the commands releases the context, and no other one does. -/
def ReleasesLast (es : List Exchange) : Prop :=
  ∃ before released, es = before ++ [released] ∧ Requests released.command .release 0 headerLength
    ∧ ∀ e ∈ before, ∀ offset len, ¬ Requests e.command .release offset len

/-- The commands of a retrieval are on the record that it leaves. -/
theorem exchanges_retrieve (t : Transport σ) (d : Dialogue σ) :
    Operation.retrieve.exchanges t d = ((retrieve t.recording).run.run d.recorded).2.exchanges := by
  have hend : Ensures (Operation.retrieve.perform t.recording) d.recorded fun _ d' =>
      d' = ((retrieve t.recording).run.run d.recorded).2 :=
    .log ((Ensures.run (retrieve t.recording) d.recorded).mono fun r d' h => (congrArg Prod.snd h).symm)
  exact congrArg Dialogue.exchanges hend

/-- **Where no context was established**, the command that asked for one is the only one. -/
theorem asks_of_failed {t : Transport σ} {d : Dialogue σ} {d₁ : Dialogue (Recorded σ)} {e : Error}
    (hmade : (establish t.recording).run.run d.recorded = (.error e, d₁)) :
    ∃ asked, Operation.retrieve.exchanges t d = [asked] ∧ Requests asked.command .establish 0 headerLength := by
  obtain ⟨⟨-, -, asked, hasked, hrequests⟩, -⟩ := establish_one t d.recorded
  rw [hmade] at hasked
  rw [exchanges_retrieve, retrieve_of_failed hmade]
  exact ⟨asked, hasked, hrequests⟩

/-- **Where a context was established**, the log is read, and then the context is released. -/
theorem releasesLast_of_established {t : Transport σ} {d : Dialogue σ} {d₁ : Dialogue (Recorded σ)} {u : Unit}
    (hmade : (establish t.recording).run.run d.recorded = (.ok u, d₁)) :
    ReleasesLast (Operation.retrieve.exchanges t d) := by
  obtain ⟨⟨-, hprogress, asked, hasked, hrequests⟩, -⟩ := establish_one t d.recorded
  rw [hmade] at hprogress hasked
  rcases hread : (readLog t.recording).run.run d₁ with ⟨r, d₂⟩
  have hreads := readLog_reads t (d := d₁) (.of_none hprogress)
  unfold Ensures at hreads
  rw [hread] at hreads
  obtain ⟨reads, hrecord, hreads⟩ := hreads
  obtain ⟨-, -, hdevice⟩ := retrieve_of_established hmade hread
  obtain ⟨-, -, released, hreleased, hrequests'⟩ := release_one t d₂
  refine ⟨asked :: reads, released, ?_, hrequests', List.forall_mem_cons.2 ⟨?_, ?_⟩⟩
  · calc Operation.retrieve.exchanges t d
      _ = ((release t.recording).run.run d₂).2.exchanges := by
        rw [exchanges_retrieve]
        exact congrArg Recorded.exchanges hdevice
      _ = d₁.exchanges ++ reads ++ [released] := by rw [hreleased, hrecord]
      _ = asked :: reads ++ [released] := by rw [hasked]; rfl
  · intro offset len hrelease
    cases hrequests.action_unique hrelease
  · intro e he offset len hrelease
    obtain ⟨_, _, hread⟩ := hreads e he
    cases hread.action_unique hrelease

/-- **Retrieving the log releases the context.** After a context was established, the last command of a retrieval is a
release, and the only one; there is no context and no kept read then, and the result is that of the read, however the
release ended. If no context was established, nothing follows the command that asked for one. -/
theorem retrieve_releases (t : Transport σ) (d : Dialogue σ) :
    let made := (establish t).run.run d
    let retrieved := (retrieve t).run.run d
    let commands := Operation.retrieve.exchanges t d
    retrieved.2.session.progress = none ∧
      match made.1 with
      | .ok _ => retrieved.1 = ((readLog t).run.run made.2).1 ∧ retrieved.2.session.state = .notEstablished
          ∧ ReleasesLast commands
      | .error e => retrieved.1 = .error e ∧ retrieved.2.session.state = .unknown
          ∧ ∃ asked, commands = [asked] ∧ Requests asked.command .establish 0 headerLength := by
  intro made retrieved commands
  have hplain := (Erases.establish t).run d.recorded
  rcases hmade : (establish t.recording).run.run d.recorded with ⟨r, d₁⟩
  rw [hmade] at hplain
  have hmade' : made = (r, d₁.plain) := hplain
  rw [hmade']
  cases r with
  | error e =>
    obtain ⟨⟨-, hprogress, -⟩, -⟩ := establish_one t d.recorded
    have hunknown := establish_unknown t.recording d.recorded e (congrArg Prod.fst hmade)
    have hretrieved : retrieved = (.error e, d₁.plain) := retrieve_of_failed hplain
    rw [hmade] at hprogress hunknown
    rw [hretrieved]
    exact ⟨hprogress, rfl, hunknown, asks_of_failed hmade⟩
  | ok u =>
    obtain ⟨hresult, hsession, -⟩ := retrieve_of_established hplain (Ensures.run (readLog t) d₁.plain)
    obtain ⟨hstate, hprogress⟩ := release_ends t ((readLog t).run.run d₁.plain).2
    rw [← hsession] at hstate hprogress
    exact ⟨hprogress, hresult, hstate, releasesLast_of_established hmade⟩

end StorageCommands.EventLog
