import StorageCommands.Proofs.Nvme.Answers
import StorageCommands.Proofs.Nvme.Completion
import StorageCommands.Proofs.Nvme.GetLogPage

/-!
# What the admin helpers report

`identifyController`, `identifyNamespace` and `healthLog` each read one structure. Their commands are known in full
(`readingCommand`), so they can always be built, and their windows are as long as the tables want, so what a successful
command leaves there can always be decoded.

- `fetch_exchanges`, `fetch_recording`: the transport is given the command once.
- `fetch_result`, `report_cases`: what is reported, from what came of issuing the command.
- `admin_helpers_report` puts them together for the three helpers.
-/

namespace StorageCommands.Nvme

open Bytes Layout

/-! ## The commands -/

/-- The admin command that reads some bytes into a fresh buffer. Of its words only dword 10 is not zero. -/
def readingCommand (opcode : AdminOpcode) (nsid cdw10 : UInt32) (len : Nat) : CommandDescriptor where
  opcode := .admin opcode
  nsid
  cdw2 := 0
  cdw3 := 0
  words := { cdw10 }
  transfer := some ⟨⟨.zeroed len, false⟩, len⟩
  metadata := none
  timeout := none
  completion := none

/-- A dword that was zero becomes what the values are encoded to. -/
theorem CommandBuilder.encodeWord_of_encode {ι : Type} [DecidableEq ι] [Named ι] {b : CommandBuilder} {w : Word}
    {t : Table ι} {values : Values ι} {v : UInt32} (hz : b.words.get w = 0)
    (h : t.encode values (zeros 4) = .ok (dwordBytes v)) : b.encodeWord w t values = .ok (b.withWord w v) := by
  have hv : dwordAt (dwordBytes v) 0 = v := dwordAt_of_slice rfl
  rw [encodeWord, hz, show dwordBytes 0 = zeros 4 from rfl, h]
  dsimp only
  rw [hv]

/-- The Identify commands for a namespace and for the controller. -/
theorem identifyCommand_eq {target : IdentifyTarget} (h : target = .forNamespace ∨ target = .forController)
    (nsid : UInt32) : identifyCommand target nsid = .ok (readingCommand .identify nsid target.toUInt32 4096) := by
  have hencode : identifyDword10.encode ⟨[(.cns, .uint target.toNat)]⟩ (zeros 4)
      = .ok (dwordBytes target.toUInt32) := by
    rcases h with rfl | rfl <;> rfl
  rw [identifyCommand, CommandBuilder.encodeWord_of_encode rfl hencode]
  rfl

/-- The Get Log Page command for the health page: page 2, and 127 as the number of dwords less one. -/
theorem healthCommand_eq (nsid : UInt32) :
    GetLogPage.command { page := .health, len := healthLength, nsid } none
      = .ok (readingCommand .getLogPage nsid 0x007f0002 512) := by
  set g : GetLogPage := { page := .health, len := healthLength, nsid }
  have hvalues (w : Word) : g.values w = ({ page := .health, len := healthLength } : GetLogPage).values w := by
    cases w <;> rfl
  have hencode (w : Word) :
      (GetLogPage.table w).encode (g.values w) (zeros 4) = .ok (dwordBytes (if w = .cdw10 then 0x007f0002 else 0)) := by
    rw [hvalues]
    cases w <;> rfl
  have hword (w : Word) {b : CommandBuilder} (hz : b.words.get w = 0) :=
    CommandBuilder.encodeWord_of_encode hz (hencode w)
  have hwords : g.encodeWords GetLogPage.encodedWords { opcode := .admin .getLogPage, nsid }
      = .ok { opcode := .admin .getLogPage, nsid, words := { cdw10 := 0x007f0002 } } :=
    bind_eq_ok.2 ⟨_, hword .cdw10 rfl, bind_eq_ok.2 ⟨_, hword .cdw11 rfl, bind_eq_ok.2 ⟨_, hword .cdw12 rfl,
      bind_eq_ok.2 ⟨_, hword .cdw13 rfl, bind_eq_ok.2 ⟨_, hword .cdw14 rfl, rfl⟩⟩⟩⟩⟩
  have halign : CommandBuilder.checkAlignment healthLength = .ok () := if_neg (by decide)
  rw [GetLogPage.command_eq]
  refine bind_eq_ok.2 ⟨(), halign, bind_eq_ok.2 ⟨_, hwords, ?_⟩⟩
  exact @CommandBuilder.build_eq _ none healthLength rfl rfl halign

/-- What the dwords of an Identify command say: the structure that is asked for, and the controller. -/
def CommandDescriptor.identifyRequest (d : CommandDescriptor) : Except Layout.Error (Nat × Nat) := do
  let v ← identifyDword10.decode (dwordBytes d.words.cdw10)
  return (v.uint .cns, v.uint .cntid)

/-- What the dwords of an Identify command say, in numbers. -/
theorem CommandDescriptor.identifyRequest_eq (d : CommandDescriptor) : d.identifyRequest
    = .ok (d.words.cdw10.toNat % 2 ^ 8, d.words.cdw10.toNat / 2 ^ 16 % 2 ^ 16) := by
  have hdecode := Table.decode_eq_ok (t := identifyDword10) (b := dwordBytes d.words.cdw10)
    (show identifyDword10.minLength ≤ 4 by decide)
  rw [identifyRequest, hdecode]
  simp only [identifyDword10, List.map_cons, List.map_nil, read_bits_dword, bind, Except.bind, pure, Except.pure]
  simp [Values.uint, Values.uint?, Values.get?, Value.uint?]

/-! ## One command -/

variable {σ α : Type}

/-- The exchange in which a transport is given a command. -/
def Transport.exchange (t : Transport σ) (d : CommandDescriptor) (w : World σ) : Exchange :=
  ⟨d, (t.execute d (w.note d.issuing)).1⟩

/-- Whatever is done to a command with a buffer, its window is there and has the length of the transfer. -/
theorem exists_window {d : CommandDescriptor} {transfer : Transfer} (h : d.transfer = some transfer)
    (hfits : transfer.len ≤ transfer.region.buffer.size) (effects : List Effect) :
    ∃ window, (d.afterAll effects).data = some window ∧ window.length = d.dataLength := by
  obtain ⟨after, hafter, hkeeps⟩ := CommandDescriptor.afterAll_transfer h effects
  have hsize := hkeeps.size
  rw [DataBuffer.size, DataBuffer.size] at hsize
  refine ⟨after.window, by rw [CommandDescriptor.data, hafter]; rfl, ?_⟩
  rw [Transfer.window, List.length_take, hkeeps.len, CommandDescriptor.dataLength, h, hsize]
  exact Nat.min_eq_left hfits

/-! ## Reports -/

/-- The report on a command, from what its window can be decoded to and from what came of issuing it. -/
def report (decoded : Except Layout.Error α) : Except TransportError StatusWord → Except CommandError α
  | .error e => .error (.transport e)
  | .ok s => if s.isSuccess then decoded.mapError .decode else .error (.failed s)

section

variable (a : α) {r : Except TransportError StatusWord}

theorem report_cases (r : Except TransportError StatusWord) :
    (∃ e, r = .error e ∧ report (.ok a) r = .error (.transport e))
      ∨ (∃ s, r = .ok s ∧ s.isSuccess = false ∧ report (.ok a) r = .error (.failed s))
      ∨ ∃ s, r = .ok s ∧ s.isSuccess = true ∧ report (.ok a) r = .ok a := by
  cases r with
  | error e => exact .inl ⟨e, rfl, rfl⟩
  | ok s =>
    cases hs : s.isSuccess with
    | false => exact .inr (.inl ⟨s, rfl, hs, by rw [report, hs]; rfl⟩)
    | true => exact .inr (.inr ⟨s, rfl, hs, by rw [report, hs]; rfl⟩)

theorem report_eq_transport_iff {e : TransportError} : report (.ok a) r = .error (.transport e) ↔ r = .error e := by
  obtain ⟨_, rfl, h⟩ | ⟨_, rfl, -, h⟩ | ⟨_, rfl, -, h⟩ := report_cases a r <;> simp [h]

theorem report_eq_failed_iff {s : StatusWord} :
    report (.ok a) r = .error (.failed s) ↔ r = .ok s ∧ s.isSuccess = false := by
  obtain ⟨e, rfl, h⟩ | ⟨s', rfl, hs, h⟩ | ⟨s', rfl, hs, h⟩ := report_cases a r
  · simp [h]
  · simp only [h, Except.error.injEq, CommandError.failed.injEq, Except.ok.injEq]
    exact ⟨fun heq => ⟨heq, heq ▸ hs⟩, And.left⟩
  · rw [h]
    refine ⟨fun hfailed => (by cases hfailed), ?_⟩
    rintro ⟨⟨⟩, hnot⟩
    exact absurd hs (by rw [hnot]; decide)

theorem report_eq_ok_iff {b : α} : report (.ok a) r = .ok b ↔ a = b ∧ ∃ s, r = .ok s ∧ s.isSuccess = true := by
  obtain ⟨e, rfl, h⟩ | ⟨s, rfl, hs, h⟩ | ⟨s, rfl, hs, h⟩ := report_cases a r
  · simp [h]
  · simp [h, hs]
  · simp [h, hs]

theorem report_ne_build (e : BuildError) : report (.ok a) r ≠ .error (.build e) := by
  obtain ⟨_, -, h⟩ | ⟨_, -, -, h⟩ | ⟨_, -, -, h⟩ := report_cases a r <;> rw [h] <;> exact nofun

theorem report_ne_decode (e : Layout.Error) : report (.ok a) r ≠ .error (.decode e) := by
  obtain ⟨_, -, h⟩ | ⟨_, -, -, h⟩ | ⟨_, -, -, h⟩ := report_cases a r <;> rw [h] <;> exact nofun

end

/-! ## Structures that are read -/

section

variable (t : Transport σ) (decode : Bytes → Except Layout.Error α) (event : α → Trace.Event)

/-- **What comes of a command**: the report on it, and an event if the report is a structure. -/
theorem fetch_eq (d : CommandDescriptor) (w : World σ) :
    fetch t (.ok d) decode event w =
      let result := report (decode ((issue t d w).2.1.data.getD [])) (issue t d w).1
      (result, match result with
        | .error _ => (issue t d w).2.2
        | .ok a => (issue t d w).2.2.note (event a)) := by
  rw [fetch, run]
  rcases issue t d w with ⟨r, d', w'⟩
  cases r with
  | error e => rfl
  | ok s =>
    dsimp only [report]
    cases s.isSuccess with
    | false => rfl
    | true =>
      rw [if_pos rfl, if_pos rfl]
      dsimp only
      cases decode (d'.data.getD []) <;> rfl

/-- **The record changes nothing**: a structure is read as without it. -/
theorem fetch_recording (d : CommandDescriptor) (w : World (Recorded σ)) :
    fetch t (.ok d) decode event w.plain
      = ((fetch t.recording (.ok d) decode event w).1, (fetch t.recording (.ok d) decode event w).2.plain) := by
  rw [fetch_eq, fetch_eq, issue_recording]
  dsimp only
  cases report (decode ((issue t.recording d w).2.1.data.getD [])) (issue t.recording d w).1 <;> rfl

/-- **A structure is read with one exchange.** -/
theorem fetch_exchanges {d : CommandDescriptor} (hd : d.completion = none) (w : World (Recorded σ)) :
    (fetch t.recording (.ok d) decode event w).2.device.exchanges
      = w.device.exchanges ++ [t.exchange d w.plain] := by
  have hdevice : (fetch t.recording (.ok d) decode event w).2.device = (issue t.recording d w).2.2.device := by
    rw [fetch_eq]
    dsimp only
    cases report (decode ((issue t.recording d w).2.1.data.getD [])) (issue t.recording d w).1 <;> rfl
  rcases hissue : issue t.recording d w with ⟨r, d', w'⟩
  obtain ⟨answer, w₁, hexecute, -, hdevice₁, -⟩ := issue_cases hd hissue
  have hrecord := exchanges_recording t d (w.note d.issuing)
  rw [hexecute] at hrecord
  have hanswer : (t.exchange d w.plain).answer = answer := congrArg Prod.fst hexecute
  rw [hdevice, hissue, hdevice₁, hrecord, ← hanswer]
  rfl

/-- **What is reported** of a command that has not been executed, from the window as the transport left it. -/
theorem fetch_result {d : CommandDescriptor} (hd : d.completion = none) (w : World σ) :
    (fetch t (.ok d) decode event w).1 = report (decode (t.exchange d w).received) (issue t d w).1 := by
  have hreceived : (t.exchange d w).received = (issue t d w).2.1.data.getD [] := by
    rw [(issue_judged t hd w).1]
    rfl
  rw [fetch_eq, hreceived]

end

/-! ## The helpers -/

/-- A helper puts one command on a transport and reports what happened. -/
structure Reports (helper : ∀ {σ : Type}, Transport σ → Action σ CommandError α) (d : CommandDescriptor)
    (decode : Bytes → Except Layout.Error α) (t : Transport σ) (w : World σ) : Prop where
  /-- The transport is given the command once, and nothing else. -/
  once : (helper t.recording (w.recorded [])).2.device.exchanges = [t.exchange d w]
  /-- The record changes nothing. -/
  recorded : helper t w = ((helper t.recording (w.recorded [])).1, (helper t.recording (w.recorded [])).2.plain)
  /-- What issuing the command gives is what the transport answers. -/
  judged : (t.exchange d w).answer.Judged (t.exchange d w).outcome (issue t d w).1
  transport : ∀ e, (helper t w).1 = .error (.transport e) ↔ (issue t d w).1 = .error e
  failed : ∀ s, (helper t w).1 = .error (.failed s) ↔ (issue t d w).1 = .ok s ∧ s.isSuccess = false
  /-- Otherwise the window is decoded, as the transport left it. -/
  succeeded : ∃ window a, (t.exchange d w).outcome.data = some window ∧ window.length = d.dataLength
    ∧ decode window = .ok a ∧ ∀ b, (helper t w).1 = .ok b ↔ a = b ∧ ∃ s, (issue t d w).1 = .ok s ∧ s.isSuccess = true
  neverBuild : ∀ e, (helper t w).1 ≠ .error (.build e)
  neverDecode : ∀ e, (helper t w).1 ≠ .error (.decode e)

/-- **A command is reported** if its window is as long as what is decoded from it has to be. -/
theorem Reports.of_fetch {helper : ∀ {σ : Type}, Transport σ → Action σ CommandError α} {opcode : AdminOpcode}
    {nsid cdw10 : UInt32} {len : Nat} {decode : Bytes → Except Layout.Error α} {event : α → Trace.Event}
    {command : Except BuildError CommandDescriptor} (hcommand : command = .ok (readingCommand opcode nsid cdw10 len))
    (hhelper : ∀ {σ : Type} (t : Transport σ), helper t = fetch t command decode event)
    (hdecode : ∀ b : Bytes, b.length = len → ∃ a, decode b = .ok a) (t : Transport σ) (w : World σ) :
    Reports helper (readingCommand opcode nsid cdw10 len) decode t w := by
  set d := readingCommand opcode nsid cdw10 len
  subst hcommand
  have hd : d.completion = none := rfl
  obtain ⟨window, hwindow, hlength⟩ := exists_window (d := d) rfl (Nat.le_of_eq (length_zeros len).symm)
    (t.exchange d w).answer.effects
  obtain ⟨a, ha⟩ := hdecode window hlength
  have hreceived : (t.exchange d w).received = window := congrArg (Option.getD · []) hwindow
  have hreport : (helper t w).1 = report (.ok a) (issue t d w).1 := by
    rw [hhelper, fetch_result t decode event hd, hreceived, ha]
  have honce := fetch_exchanges t decode event hd (w.recorded [])
  have hrecorded := fetch_recording t decode event d (w.recorded [])
  constructor
  case once => rw [hhelper, honce]; rfl
  case recorded => rw [hhelper, hhelper, ← hrecorded]; rfl
  case judged => exact (issue_judged t hd w).2
  case transport => intro e; rw [hreport, report_eq_transport_iff]
  case failed => intro s; rw [hreport, report_eq_failed_iff]
  case succeeded => exact ⟨window, a, hwindow, hlength, ha, fun b => by rw [hreport, report_eq_ok_iff]⟩
  case neverBuild => intro e; rw [hreport]; exact report_ne_build a e
  case neverDecode => intro e; rw [hreport]; exact report_ne_decode a e

/-- **The admin helpers report what happened**, whatever the transport does.

Each puts one command on the transport: Identify for the controller, Identify for the namespace, and Get Log Page for
the whole health page. It reports the error with which issuing the command failed, or the status with which the command
completed if that is not a success, and otherwise what the window holds. -/
theorem admin_helpers_report (t : Transport σ) (w : World σ) (nsid : UInt32) :
    let forController := readingCommand .identify 0 1 4096
    let forNamespace := readingCommand .identify nsid 0 4096
    let forHealth := readingCommand .getLogPage nsid 0x007f0002 512
    Reports identifyController forController ControllerIdentity.decode t w
      ∧ forController.identifyRequest = .ok (1, 0)
      ∧ Reports (identifyNamespace · nsid) forNamespace NamespaceIdentity.decode t w
      ∧ forNamespace.identifyRequest = .ok (0, 0)
      ∧ Reports (healthLog · nsid) forHealth HealthSummary.decode t w
      ∧ forHealth.logPageRequest = .ok {
          page := 2, parameter := 0, retainEvent := 0, count := 127, identifier := 0, offset := 0, uuidIndex := 0,
          offsetType := 0, commandSet := 0 } := by
  intro forController forNamespace forHealth
  refine ⟨.of_fetch (identifyCommand_eq (.inr rfl) 0) (fun _ => rfl) (fun b hb => ?_) t w, ?_,
    .of_fetch (identifyCommand_eq (.inl rfl) nsid) (fun _ => rfl) (fun b hb => ?_) t w, ?_,
    .of_fetch (healthCommand_eq nsid) (fun _ => rfl) (fun b hb => ?_) t w, ?_⟩
  · exact Table.exists_of_build ControllerIdentity.decode_eq (hb ▸ by decide)
  · rw [CommandDescriptor.identifyRequest_eq]
    simp [forController, readingCommand]
  · exact Table.exists_of_build NamespaceIdentity.decode_eq (hb ▸ by decide)
  · rw [CommandDescriptor.identifyRequest_eq]
    simp [forNamespace, readingCommand]
  · exact Table.exists_of_build HealthSummary.decode_eq (hb ▸ by decide)
  · rw [CommandDescriptor.logPageRequest_eq]
    simp [forHealth, readingCommand]

end StorageCommands.Nvme
