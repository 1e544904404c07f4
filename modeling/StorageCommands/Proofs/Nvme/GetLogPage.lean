import StorageCommands.Proofs.Nvme.LogPageRequest

/-!
# Get Log Page on the wire

A Get Log Page command is built one dword after the other (`command_eq`), each from its own values (`values`). Integers
that fit are stored in a dword and nothing else is (`encodeWord_stores`), and the first one that does not fit says what
is wrong (`encodeWord_eq_error`). `encodeWords_stores` and `encodeWords_eq_error` say the same of all dwords, and
`fault` says what is wrong with a command as a whole.

- `command_cases`: there is a command unless there is a fault.
- `command_isOk_iff`: which requests a command can be built for. The number of dwords has 32 bits, and so a transfer has
  at most 2^34 bytes.
- `command_request`: a command that was built for a request is decoded to that request (`command_asked` has the same in
  numbers), and transfers through the first bytes of the buffer.

`command_exact` puts this together.
-/

namespace StorageCommands.Nvme

open Bytes Layout

/-! ## One dword -/

/-- Integers as a dword holds them: it is decoded to them, and has no other bits. -/
structure Stores {ι : Type} [DecidableEq ι] [Named ι] (t : Table ι) (values : Values ι) (v : UInt32) : Prop where
  decoded : ∃ decoded, t.decode (dwordBytes v) = .ok decoded ∧ ∀ f ∈ t.fields, decoded.uint f.1 = values.uint f.1
  clear : ∀ pos, (∀ f ∈ t.fields, f.2.covers pos = false) → (dwordBytes v).bitAt pos = false

namespace CommandBuilder

variable {ι : Type} [DecidableEq ι] [Named ι]

/-- Integers that are not too large for their fields are stored in a dword that was zero. -/
theorem encodeWord_stores {b : CommandBuilder} {w : Word} {t : Table ι} {values : Values ι} (hz : b.words.get w = 0)
    (ht : t.Separated) (hm : t.minLength ≤ 4) (hp : ∀ f ∈ t.fields, f.2.Plain)
    (hn : (values.entries.map Prod.fst).Nodup) (hu : ∀ e ∈ values.entries, ∃ k, e.2 = .uint k)
    (hfit : ∀ e ∈ values.entries, ∀ s ∈ t.spec? e.1, ∀ k, e.2 = .uint k → ∀ max ∈ s.maxValue, k ≤ max) :
    ∃ v, b.encodeWord w t values = .ok (b.withWord w v) ∧ Stores t values v := by
  obtain ⟨bytes, hb⟩ := (Table.encode_uint_isOk_iff hp hm hu).2 hfit
  have hl : bytes.length = 4 := by rw [Table.length_of_encode hb, length_zeros]
  refine ⟨dwordAt bytes 0, ?_, ?_, fun pos hpos => ?_⟩
  · rw [encodeWord, hz, show dwordBytes 0 = zeros 4 from rfl, hb]
  · rw [dwordAt_dwordBytes hl]
    exact ht.decode_encode_uint hp hm hn hu hb
  · rw [dwordAt_dwordBytes hl, Table.bitAt_of_encode_of_not_covers hb hpos, bitAt_zeros]

/-- The first integer that is too large for its field cannot be stored in a dword that was zero. -/
theorem encodeWord_eq_error {b : CommandBuilder} {w : Word} {t : Table ι} (hz : b.words.get w = 0)
    (hm : t.minLength ≤ 4) (hp : ∀ f ∈ t.fields, f.2.Plain) (before : List (ι × Value)) {after : List (ι × Value)}
    {id : ι} {k max : Nat} {s : Spec}
    (hbefore : ∀ e ∈ before, ∃ k, e.2 = .uint k ∧ ∀ s ∈ t.spec? e.1, ∀ max ∈ s.maxValue, k ≤ max)
    (hs : t.spec? id = some s) (hmax : s.maxValue = some max) (hk : max < k) :
    b.encodeWord w t ⟨before ++ (id, .uint k) :: after⟩
      = .error (.encode w (.valueTooLarge (Named.name id) k max)) := by
  rw [encodeWord, hz, show dwordBytes 0 = zeros 4 from rfl,
    Table.encode_uint_eq_error hp hm before hbefore hs hmax hk]

/-- A transfer through a buffer that was lent, or a fresh one. -/
def transferThrough (lent : Option DataBuffer) (len : Nat) : Transfer :=
  ⟨(lent.map fun buffer => ⟨buffer, true⟩).getD ⟨DataBuffer.zeroed len, false⟩, len⟩

/-- What is wrong with a buffer that was lent for a transfer. -/
def bufferFault (lent : Option DataBuffer) (len : Nat) : Option BuildError :=
  lent.bind fun buffer => if buffer.size < len then some (.bufferTooShort len buffer.size) else none

theorem bufferFault_eq_none_iff {lent : Option DataBuffer} {len : Nat} :
    bufferFault lent len = none ↔ ∀ buffer ∈ lent, len ≤ buffer.size := by
  cases lent with
  | none => simp [bufferFault]
  | some buffer => simp [bufferFault]

/-- A command is finished if its buffer is long enough. -/
theorem build_eq {b : CommandBuilder} {lent : Option DataBuffer} {len : Nat}
    (hr : b.region = lent.map fun buffer => ⟨buffer, true⟩) (hl : b.transferLength = some len)
    (ha : checkAlignment len = .ok ()) :
    b.build = match bufferFault lent len with
      | some e => .error e
      | none => .ok { b with transfer := some (transferThrough lent len), completion := none } := by
  cases lent with
  | none =>
    simp only [build, transfer, hr, hl, Option.map_none, ha, bind, Except.bind]
    rfl
  | some buffer =>
    simp only [build, transfer, hr, hl, Option.map_some, Option.getD_some, ha, bind, Except.bind, bufferFault,
      Option.bind]
    by_cases hs : buffer.size < len
    · rw [if_pos hs, if_pos hs]
      rfl
    · rw [if_neg hs, if_neg hs]
      rfl

end CommandBuilder

/-! ## The command -/

namespace GetLogPage

/-- The fields of a dword. Dword 15 has none. -/
def table : Word → Table GetLogPageField
  | .cdw10 => getLogPageDword10
  | .cdw11 => getLogPageDword11
  | .cdw12 => getLogPageDword12
  | .cdw13 => getLogPageDword13
  | .cdw14 => getLogPageDword14
  | .cdw15 => ⟨[]⟩

/-- What is stored in a dword. -/
def values (g : GetLogPage) : Word → Values GetLogPageField
  | .cdw10 => ⟨[(.lid, .uint g.page.toNat), (.lsp, .uint g.parameter.toNat), (.rae, .ofBool g.retainEvent),
      (.numdl, .uint ((g.len / 4 - 1) % 0x10000))]⟩
  | .cdw11 => ⟨[(.numdu, .uint ((g.len / 4 - 1) / 0x10000)), (.lsi, .uint g.identifier.toNat)]⟩
  | .cdw12 => ⟨[(.lpol, .uint (g.offset.toNat % 0x100000000))]⟩
  | .cdw13 => ⟨[(.lpou, .uint (g.offset.toNat / 0x100000000))]⟩
  | .cdw14 => ⟨[(.uuidIndex, .uint g.uuidIndex.toNat)]⟩
  | .cdw15 => ⟨[]⟩

/-- Whether the fields of a dword have room for the values. -/
def Fits (g : GetLogPage) : Word → Prop
  | .cdw10 => g.parameter.toNat ≤ 0x7f
  | .cdw11 => (g.len / 4 - 1) / 0x10000 ≤ 0xffff
  | .cdw14 => g.uuidIndex.toNat ≤ 0x7f
  | .cdw12 | .cdw13 | .cdw15 => True

/-- Why the values of a dword cannot be stored, if they do not fit. -/
def refusal (g : GetLogPage) : Word → Layout.Error
  | .cdw11 => .valueTooLarge "Numdu" ((g.len / 4 - 1) / 0x10000) 0xffff
  | .cdw14 => .valueTooLarge "UuidIndex" g.uuidIndex.toNat 0x7f
  | .cdw10 | .cdw12 | .cdw13 | .cdw15 => .valueTooLarge "Lsp" g.parameter.toNat 0x7f

theorem table_separated (w : Word) : (table w).Separated := by cases w <;> decide

theorem minLength_table (w : Word) : (table w).minLength ≤ 4 := by cases w <;> decide

theorem plain_table (w : Word) : ∀ f ∈ (table w).fields, f.2.Plain := by cases w <;> decide

variable {g : GetLogPage}

theorem values_nodup (w : Word) : ((g.values w).entries.map Prod.fst).Nodup := by cases w <;> simp [values]

theorem values_uint (w : Word) : ∀ e ∈ (g.values w).entries, ∃ k, e.2 = .uint k := by
  cases w <;> simp [values, Value.ofBool]

/-- Values that fit are not too large for their fields. -/
theorem Fits.le_maxValue {w : Word} (h : g.Fits w) : ∀ e ∈ (g.values w).entries, ∀ s ∈ (table w).spec? e.1,
    ∀ k, e.2 = .uint k → ∀ max ∈ s.maxValue, k ≤ max := by
  have hpage := g.page.toNat_lt
  have hretain : g.retainEvent.toNat ≤ 1 := Bool.toNat_le _
  have hidentifier := g.identifier.toNat_lt
  have hoffset := g.offset.toNat_lt
  cases w with
  | cdw10 =>
    simp [values, table, getLogPageDword10, Table.spec?, Spec.maxValue, widthMax, Value.ofBool, Fits] at h ⊢
    omega
  | cdw11 =>
    simp [values, table, getLogPageDword11, Table.spec?, Spec.maxValue, widthMax, Fits] at h ⊢
    omega
  | cdw12 =>
    simp [values, table, getLogPageDword12, Table.spec?, Spec.maxValue, widthMax]
    omega
  | cdw13 =>
    simp [values, table, getLogPageDword13, Table.spec?, Spec.maxValue, widthMax]
    omega
  | cdw14 =>
    simp [values, table, getLogPageDword14, Table.spec?, Spec.maxValue, widthMax, Fits] at h ⊢
    omega
  | cdw15 => simp [values]

theorem encodeWord_stores {w : Word} (h : g.Fits w) {b : CommandBuilder} (hz : b.words.get w = 0) :
    ∃ v, b.encodeWord w (table w) (g.values w) = .ok (b.withWord w v) ∧ Stores (table w) (g.values w) v :=
  CommandBuilder.encodeWord_stores hz (table_separated w) (minLength_table w) (plain_table w) (values_nodup w)
    (values_uint w) h.le_maxValue

theorem encodeWord_eq_error {w : Word} (h : ¬g.Fits w) {b : CommandBuilder} (hz : b.words.get w = 0) :
    b.encodeWord w (table w) (g.values w) = .error (.encode w (g.refusal w)) := by
  have hfirst {id : GetLogPageField} {k max : Nat} {s : Spec} {after : List (GetLogPageField × Value)} :=
    @CommandBuilder.encodeWord_eq_error _ _ _ b w (table w) hz (minLength_table w) (plain_table w) [] after id k max s
      (List.forall_mem_nil _)
  cases w with
  | cdw10 =>
    refine CommandBuilder.encodeWord_eq_error hz (minLength_table _) (plain_table _) [(.lid, .uint g.page.toNat)] ?_
      rfl rfl (Nat.lt_of_not_le h)
    have hpage := g.page.toNat_lt
    simp [table, getLogPageDword10, Table.spec?, Spec.maxValue, widthMax]
    omega
  | cdw11 => exact hfirst rfl rfl (Nat.lt_of_not_le h)
  | cdw14 => exact hfirst rfl rfl (Nat.lt_of_not_le h)
  | cdw12 | cdw13 | cdw15 => exact absurd trivial h

/-! ## All dwords -/

/-- Stores the values of some dwords, one after the other. -/
def encodeWords (g : GetLogPage) (ws : List Word) (b : CommandBuilder) : Except BuildError CommandBuilder :=
  ws.foldlM (fun b w => b.encodeWord w (table w) (g.values w)) b

/-- Dwords that were zero hold their values if these fit, and the others stay as they are. -/
theorem encodeWords_stores {ws : List Word} (hn : ws.Nodup) (hf : ∀ w ∈ ws, g.Fits w) {b : CommandBuilder}
    (hz : ∀ w ∈ ws, b.words.get w = 0) :
    ∃ words, g.encodeWords ws b = .ok { b with words } ∧ (∀ w ∈ ws, Stores (table w) (g.values w) (words.get w))
      ∧ ∀ w ∉ ws, words.get w = b.words.get w := by
  induction ws generalizing b with
  | nil => exact ⟨b.words, rfl, fun _ hw => absurd hw List.not_mem_nil, fun _ _ => rfl⟩
  | cons w ws ih =>
    obtain ⟨hw, hn⟩ := List.nodup_cons.1 hn
    obtain ⟨v, hv, hstores⟩ := encodeWord_stores (hf w List.mem_cons_self) (hz w List.mem_cons_self)
    have hother : ∀ x, x ≠ w → (b.withWord w v).words.get x = b.words.get x := fun x hx => b.words.get_set_of_ne v hx
    obtain ⟨words, hwords, hmem, hkept⟩ := ih hn (fun x hx => hf x (List.mem_cons_of_mem _ hx)) fun x hx => by
      rw [hother x (fun he => hw (he ▸ hx)), hz x (List.mem_cons_of_mem _ hx)]
    refine ⟨words, ?_, fun x hx => ?_, fun x hx => ?_⟩
    · rw [encodeWords, List.foldlM_cons, hv]
      exact hwords
    · rcases List.mem_cons.1 hx with rfl | hx
      · rw [hkept x hw, show (b.withWord x v).words.get x = v from b.words.get_set_self x v]
        exact hstores
      · exact hmem x hx
    · rw [List.mem_cons, not_or] at hx
      rw [hkept x hx.2, hother x hx.1]

/-- The first dword whose values do not fit says what is wrong. -/
theorem encodeWords_eq_error {before after : List Word} {w : Word} (hn : (before ++ w :: after).Nodup)
    (hf : ∀ x ∈ before, g.Fits x) (hw : ¬g.Fits w) {b : CommandBuilder} (hz : ∀ x, b.words.get x = 0) :
    g.encodeWords (before ++ w :: after) b = .error (.encode w (g.refusal w)) := by
  obtain ⟨hbefore, -, hdisjoint⟩ := List.nodup_append.1 hn
  obtain ⟨words, hwords, -, hkept⟩ := encodeWords_stores hbefore hf fun x _ => hz x
  have hzero : words.get w = 0 := by
    rw [hkept w fun hmem => hdisjoint w hmem w List.mem_cons_self rfl, hz]
  rw [encodeWords, List.foldlM_append, ← encodeWords, hwords]
  simp only [bind, Except.bind, List.foldlM_cons, encodeWord_eq_error hw (b := { b with words }) hzero]

/-! ## The whole command -/

/-- The dwords that are encoded, in order. -/
def encodedWords : List Word := [.cdw10, .cdw11, .cdw12, .cdw13, .cdw14]

/-- Finishes a command whose dwords are there. -/
def finish (g : GetLogPage) (lent : Option DataBuffer) (b : CommandBuilder) : Except BuildError CommandDescriptor :=
  CommandBuilder.build
    { b with
      transferLength := some g.len
      region := lent.map fun buffer => ⟨buffer, true⟩
      timeout := g.timeout }

/-- A command is built one dword after the other. -/
theorem command_eq (g : GetLogPage) (lent : Option DataBuffer) :
    g.command lent = (do
      CommandBuilder.checkAlignment g.len
      let b ← g.encodeWords encodedWords { opcode := .admin .getLogPage, nsid := g.nsid }
      g.finish lent b) := by
  simp only [command, encodeWords, encodedWords, List.foldlM_cons, List.foldlM_nil, bind_assoc, pure_bind]
  rfl

/-- What is wrong with a command: the first condition that fails. -/
def fault (g : GetLogPage) (lent : Option DataBuffer) : Option BuildError :=
  if g.len = 0 ∨ g.len % 4 ≠ 0 then some (.unalignedTransfer g.len)
  else if 0x7f < g.parameter.toNat then some (.encode .cdw10 (.valueTooLarge "Lsp" g.parameter.toNat 0x7f))
  else if 2 ^ 34 < g.len then some (.encode .cdw11 (.valueTooLarge "Numdu" ((g.len / 4 - 1) / 2 ^ 16) 0xffff))
  else if 0x7f < g.uuidIndex.toNat then some (.encode .cdw14 (.valueTooLarge "UuidIndex" g.uuidIndex.toNat 0x7f))
  else CommandBuilder.bufferFault lent g.len

/-- The command, made of dwords that hold what is to be read. -/
structure Encoded (g : GetLogPage) (lent : Option DataBuffer) (d : CommandDescriptor) : Prop where
  opcode : d.opcode = .admin .getLogPage
  nsid : d.nsid = g.nsid
  words : ∀ w, Stores (table w) (g.values w) (d.words.get w)
  cdw15 : d.words.cdw15 = 0
  transfer : d.transfer = some (CommandBuilder.transferThrough lent g.len)
  timeout : d.timeout = g.timeout
  notExecuted : d.completion = none

/-- Every dword starts as zero. -/
theorem get_zero (w : Word) : ({} : Words).get w = 0 := by cases w <;> rfl

/-- A dword whose values do not fit is where building a command ends. -/
theorem command_of_not_fits (lent : Option DataBuffer) (ha : CommandBuilder.checkAlignment g.len = .ok ())
    (before after : List Word) {w : Word} (hws : encodedWords = before ++ w :: after) (hf : ∀ x ∈ before, g.Fits x)
    (hw : ¬g.Fits w) : g.command lent = .error (.encode w (g.refusal w)) := by
  have hn : (before ++ w :: after).Nodup := hws ▸ (by decide : encodedWords.Nodup)
  rw [command_eq, ha, hws, encodeWords_eq_error hn hf hw get_zero]
  rfl

/-- A command whose values fit is finished if its buffer is long enough. -/
theorem command_of_fits (lent : Option DataBuffer) (ha : CommandBuilder.checkAlignment g.len = .ok ())
    (hf : ∀ w, g.Fits w) :
    match CommandBuilder.bufferFault lent g.len with
    | some e => g.command lent = .error e
    | none => ∃ d, g.command lent = .ok d ∧ g.Encoded lent d := by
  obtain ⟨words, hwords, hstores, hkept⟩ := @encodeWords_stores g encodedWords (by decide) (fun w _ => hf w)
    { opcode := .admin .getLogPage, nsid := g.nsid } fun w _ => get_zero w
  have hcommand : g.command lent = g.finish lent { opcode := .admin .getLogPage, nsid := g.nsid, words } := by
    rw [command_eq, ha, hwords]
    rfl
  rw [hcommand, finish, CommandBuilder.build_eq rfl rfl ha]
  cases CommandBuilder.bufferFault lent g.len with
  | some e => rfl
  | none =>
    -- the one dword that is not encoded stays zero
    have hzero : words.get .cdw15 = 0 := hkept .cdw15 (by decide)
    refine ⟨_, rfl, rfl, rfl, fun w => ?_, hzero, rfl, rfl, rfl⟩
    cases w with
    | cdw10 | cdw11 | cdw12 | cdw13 | cdw14 => exact hstores _ (by decide)
    | cdw15 =>
      rw [show words.get .cdw15 = 0 from hzero]
      exact ⟨⟨_, rfl, List.forall_mem_nil _⟩, fun pos _ => bitAt_zeros 4 pos⟩

/-- **There is a command unless there is a fault.** -/
theorem command_cases (g : GetLogPage) (lent : Option DataBuffer) :
    match g.fault lent with
    | some e => g.command lent = .error e
    | none => ∃ d, g.command lent = .ok d ∧ g.Encoded lent d := by
  rw [fault]
  by_cases halign : g.len = 0 ∨ g.len % 4 ≠ 0
  · rw [if_pos halign, command_eq]
    simp only [CommandBuilder.checkAlignment, if_pos halign, bind, Except.bind]
  rw [if_neg halign]
  have ha : CommandBuilder.checkAlignment g.len = .ok () := if_neg halign
  by_cases hparameter : 0x7f < g.parameter.toNat
  · rw [if_pos hparameter]
    exact command_of_not_fits lent ha [] [.cdw11, .cdw12, .cdw13, .cdw14] rfl (List.forall_mem_nil _)
      (Nat.not_le_of_lt hparameter)
  rw [if_neg hparameter]
  have h10 : g.Fits .cdw10 := Nat.le_of_not_lt hparameter
  by_cases hlen : 2 ^ 34 < g.len
  · rw [if_pos hlen]
    have h11 : ¬g.Fits .cdw11 := by
      rw [Fits]
      omega
    exact command_of_not_fits lent ha [.cdw10] [.cdw12, .cdw13, .cdw14] rfl (List.forall_mem_singleton.2 h10) h11
  rw [if_neg hlen]
  have h11 : g.Fits .cdw11 := by
    rw [Fits]
    omega
  by_cases huuid : 0x7f < g.uuidIndex.toNat
  · rw [if_pos huuid]
    have hbefore : ∀ w ∈ [Word.cdw10, .cdw11, .cdw12, .cdw13], g.Fits w := by
      simp only [List.forall_mem_cons, h10, h11, true_and]
      exact ⟨trivial, trivial, List.forall_mem_nil _⟩
    exact command_of_not_fits lent ha [.cdw10, .cdw11, .cdw12, .cdw13] [] rfl hbefore (Nat.not_le_of_lt huuid)
  rw [if_neg huuid]
  refine command_of_fits lent ha fun w => ?_
  cases w with
  | cdw10 => exact h10
  | cdw11 => exact h11
  | cdw14 => exact Nat.le_of_not_lt huuid
  | cdw12 | cdw13 | cdw15 => trivial

theorem fault_eq_none_iff {lent : Option DataBuffer} :
    g.fault lent = none ↔ g.len ≠ 0 ∧ g.len % 4 = 0 ∧ g.parameter ≤ 0x7f ∧ g.len ≤ 2 ^ 34 ∧ g.uuidIndex ≤ 0x7f
      ∧ ∀ buffer ∈ lent, g.len ≤ buffer.size := by
  have hparameter : g.parameter ≤ 0x7f ↔ ¬0x7f < g.parameter.toNat := UInt8.le_iff_toNat_le.trans Nat.not_lt.symm
  have huuid : g.uuidIndex ≤ 0x7f ↔ ¬0x7f < g.uuidIndex.toNat := UInt8.le_iff_toNat_le.trans Nat.not_lt.symm
  rw [hparameter, huuid, ← CommandBuilder.bufferFault_eq_none_iff, ← Nat.not_lt, fault]
  split_ifs with halign hlsp hlen hindex
  · exact iff_of_false nofun fun h => halign.elim h.1 fun hmod => hmod h.2.1
  · exact iff_of_false nofun fun h => h.2.2.1 hlsp
  · exact iff_of_false nofun fun h => h.2.2.2.1 hlen
  · exact iff_of_false nofun fun h => h.2.2.2.2.1 hindex
  · rw [not_or, not_not] at halign
    exact ⟨fun h => ⟨halign.1, halign.2, hlsp, hlen, hindex, h⟩, fun h => h.2.2.2.2.2⟩

/-! ## Reading it back -/

/-- What is to be read, as the dwords say it. -/
def request (g : GetLogPage) : LogPageRequest where
  page := g.page.toNat
  parameter := g.parameter.toNat
  retainEvent := g.retainEvent.toNat
  count := g.len / 4 - 1
  identifier := g.identifier.toNat
  offset := g.offset.toNat
  uuidIndex := g.uuidIndex.toNat
  offsetType := 0
  commandSet := 0

/-- Dwords that hold what is to be read are decoded to it. -/
theorem Encoded.request {lent : Option DataBuffer} {d : CommandDescriptor} (h : g.Encoded lent d) :
    d.logPageRequest = .ok g.request := by
  obtain ⟨v10, e10, f10⟩ := (h.words .cdw10).decoded
  obtain ⟨v11, e11, f11⟩ := (h.words .cdw11).decoded
  obtain ⟨v12, e12, f12⟩ := (h.words .cdw12).decoded
  obtain ⟨v13, e13, f13⟩ := (h.words .cdw13).decoded
  obtain ⟨v14, e14, f14⟩ := (h.words .cdw14).decoded
  simp only [table, Words.get] at e10 e11 e12 e13 e14
  simp only [table, getLogPageDword10, getLogPageDword11, getLogPageDword12, getLogPageDword13, getLogPageDword14,
    List.forall_mem_cons, List.not_mem_nil, false_implies, implies_true, and_true] at f10 f11 f12 f13 f14
  rw [CommandDescriptor.logPageRequest, e10, e11, e12, e13, e14]
  simp only [bind, Except.bind, pure, Except.pure, Except.ok.injEq, GetLogPage.request, LogPageRequest.mk.injEq]
  obtain ⟨hlid, hlsp, hrae, hnumdl⟩ := f10
  obtain ⟨hnumdu, hlsi⟩ := f11
  obtain ⟨huuid, hot, hcsi⟩ := f14
  rw [hlid, hlsp, hrae, hnumdl, hnumdu, hlsi, f12, f13, huuid, hot, hcsi]
  refine ⟨rfl, rfl, rfl, ?_, rfl, ?_, rfl, rfl, rfl⟩
  · exact Nat.mod_add_div' ..
  · exact Nat.mod_add_div' ..

/-- A command that was built has no fault. -/
theorem command_encoded {lent : Option DataBuffer} {d : CommandDescriptor} (h : g.command lent = .ok d) :
    g.fault lent = none ∧ g.Encoded lent d := by
  have hcases := command_cases g lent
  cases hfault : g.fault lent with
  | some e =>
    rw [hfault] at hcases
    cases h.symm.trans hcases
  | none =>
    rw [hfault] at hcases
    obtain ⟨d', hd', hencoded⟩ := hcases
    cases h.symm.trans hd'
    exact ⟨rfl, hencoded⟩

/-- **The command is decoded to what is to be read.** -/
theorem command_request {lent : Option DataBuffer} {d : CommandDescriptor} (h : g.command lent = .ok d) :
    d.logPageRequest = .ok g.request ∧ d.words.cdw15 = 0 :=
  have hencoded := (command_encoded h).2
  ⟨hencoded.request, hencoded.cdw15⟩

/-- The dwords of a command ask for what is to be read. -/
structure Asked (g : GetLogPage) (d : CommandDescriptor) : Prop where
  opcode : d.opcode = .admin .getLogPage
  nsid : d.nsid = g.nsid
  page : d.words.cdw10.toNat % 2 ^ 8 = g.page.toNat
  parameter : d.words.cdw10.toNat / 2 ^ 8 % 2 ^ 7 = g.parameter.toNat
  retainEvent : d.words.cdw10.toNat / 2 ^ 15 % 2 = g.retainEvent.toNat
  /-- The number of dwords less one. -/
  count : d.words.cdw10.toNat / 2 ^ 16 % 2 ^ 16 + d.words.cdw11.toNat % 2 ^ 16 * 2 ^ 16 = g.len / 4 - 1
  identifier : d.words.cdw11.toNat / 2 ^ 16 % 2 ^ 16 = g.identifier.toNat
  offset : d.words.cdw12.toNat + d.words.cdw13.toNat * 2 ^ 32 = g.offset.toNat
  uuidIndex : d.words.cdw14.toNat % 2 ^ 7 = g.uuidIndex.toNat
  notExecuted : d.completion = none

/-- **The command asks for what is to be read**, and transfers through the start of the buffer. -/
theorem command_asked {buffer : DataBuffer} {d : CommandDescriptor} (h : g.command (some buffer) = .ok d) :
    g.Asked d ∧ d.transfer = some ⟨⟨buffer, true⟩, g.len⟩ ∧ g.len ≤ buffer.size ∧ g.len ≠ 0 ∧ g.len % 4 = 0 := by
  obtain ⟨hfault, hencoded⟩ := command_encoded h
  obtain ⟨hne, hmod, -, -, -, hsize⟩ := fault_eq_none_iff.1 hfault
  have hrequest := d.logPageRequest_eq.symm.trans hencoded.request
  simp only [Except.ok.injEq, request, LogPageRequest.mk.injEq] at hrequest
  obtain ⟨hpage, hparameter, hretain, hcount, hidentifier, hoffset, huuid, -, -⟩ := hrequest
  exact ⟨⟨hencoded.opcode, hencoded.nsid, hpage, hparameter, hretain, hcount, hidentifier, hoffset, huuid,
    hencoded.notExecuted⟩, hencoded.transfer, hsize buffer rfl, hne, hmod⟩

/-- **A command can be built** for a positive number of whole dwords that the count and the buffer have room for. -/
theorem command_isOk_iff {lent : Option DataBuffer} :
    (∃ d, g.command lent = .ok d) ↔ g.len ≠ 0 ∧ g.len % 4 = 0 ∧ g.parameter ≤ 0x7f ∧ g.len ≤ 2 ^ 34
      ∧ g.uuidIndex ≤ 0x7f ∧ ∀ buffer ∈ lent, g.len ≤ buffer.size := by
  rw [← fault_eq_none_iff]
  constructor
  · rintro ⟨d, h⟩
    exact (command_encoded h).1
  · intro h
    have hcases := command_cases g lent
    rw [h] at hcases
    obtain ⟨d, hd, -⟩ := hcases
    exact ⟨d, hd⟩

/-- **Encoding is exact.** A command can be built for a positive number of whole dwords that the count, the two
seven-bit fields and the buffer have room for, and the first of these that fails is the error. A command that was built
is decoded to what is to be read, no other bit of its dwords is set, and it transfers as many bytes as the dwords
say. -/
theorem command_exact (g : GetLogPage) (lent : Option DataBuffer) :
    ((∃ d, g.command lent = .ok d) ↔ g.len ≠ 0 ∧ g.len % 4 = 0 ∧ g.parameter ≤ 0x7f ∧ g.len ≤ 2 ^ 34
      ∧ g.uuidIndex ≤ 0x7f ∧ ∀ buffer ∈ lent, g.len ≤ buffer.size)
    ∧ match g.fault lent with
      | some e => g.command lent = .error e
      | none => ∃ d, g.command lent = .ok d ∧ d.logPageRequest = .ok g.request ∧ g.request.count + 1 = g.len / 4
          ∧ (∀ w pos, (∀ f ∈ (table w).fields, f.2.covers pos = false) → (dwordBytes (d.words.get w)).bitAt pos = false)
          ∧ d.opcode = .admin .getLogPage ∧ d.nsid = g.nsid ∧ d.timeout = g.timeout ∧ d.dataLength = g.len := by
  refine ⟨command_isOk_iff, ?_⟩
  have hcases := command_cases g lent
  cases hfault : g.fault lent with
  | some e =>
    rw [hfault] at hcases
    exact hcases
  | none =>
    rw [hfault] at hcases
    obtain ⟨d, hd, hencoded⟩ := hcases
    obtain ⟨hne, hmod, -⟩ := fault_eq_none_iff.1 hfault
    have hcount : g.len / 4 - 1 + 1 = g.len / 4 := by omega
    have hlength : d.dataLength = g.len := by
      rw [CommandDescriptor.dataLength, hencoded.transfer]
      rfl
    exact ⟨d, hd, hencoded.request, hcount, fun w => (hencoded.words w).clear, hencoded.opcode, hencoded.nsid,
      hencoded.timeout, hlength⟩

end GetLogPage

end StorageCommands.Nvme
