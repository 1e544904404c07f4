import StorageCommands.Proofs.Layout.Atomicity
import StorageCommands.Proofs.Layout.Stored

/-!
# Decoding step by step

`Table.decode` reads fields as functions of the buffer. Here the same is done as a driver does it (`InPlace.decode`): an
integer is gathered byte by byte or bit by bit in a machine word, and each step says what it needs. A byte that is taken
has to lie inside the buffer, and so does a range; a shift has to stay below 64 bits. A step that does not get what it
needs halts.

- `InPlace.runs_load`: a field that can be built is read without a halt wherever the buffer has it, and gives what
  `Spec.read` says. The loops are instances of `InPlace.runs_gather`.
- `decode_isOk_iff` and `decode_eq_error_iff`: decoding fails for one reason only, that the buffer ends before a field
  does, and reports the first such field.
- `decodeOne_eq_get?`: reading one field gives what all of decoding has for it.

`decode_exact` puts them together.
-/

namespace StorageCommands.ByteOrder

open Bytes

/-- The bytes of a string, in the order of the digits of the integer that it stores. -/
theorem toNat_byteAt_place (order : ByteOrder) {b : Bytes} {i : Nat} (h : i < b.length) :
    (b.byteAt (order.place b.length i)).toNat = order.read b >>> (8 * i) % 2 ^ 8 := by
  have hbyte := order.byteAt_write (order.read b) (order.place_lt h)
  rw [order.write_read, order.place_place h] at hbyte
  rw [hbyte, UInt8.toNat_ofNat']

end StorageCommands.ByteOrder

namespace StorageCommands.Layout

open Bytes

/-- Reads one entry of a table. -/
def Table.decodeEntry {ι : Type} [Named ι] (b : Bytes) (f : ι × Spec) : Except Error (ι × Value) := do
  return (f.1, ← f.2.decode (Named.name f.1) b)

theorem Table.decode_eq {ι : Type} [Named ι] (t : Table ι) (b : Bytes) :
    t.decode b = (t.fields.mapM (decodeEntry b)).map Values.mk := rfl

namespace InPlace

/-! ## Reading one field -/

/-- Takes a byte. -/
def takeByte (i : Nat) : Work UInt8 := do
  match (← get)[i]? with
  | some x => return x
  | none => throw .outOfBounds

/-- Takes a range of bytes as they stand. -/
def takeBytes (offset len : Nat) : Work Bytes := do
  range offset len
  return (← get).slice offset len

/-- Works for every number below `n` on a machine word, from zero on. -/
def gather : Nat → (Nat → Nat → Work Nat) → Work Nat
  | 0, _ => return 0
  | n + 1, f => do f n (← gather n f)

/-- The integer in a range, gathered from its highest byte on. -/
def takeInteger (order : ByteOrder) (offset len : Nat) : Work Nat := do
  range offset len
  gather len fun i n => do
    let higher ← shiftLeft n 8
    let x ← takeByte (offset + order.place len (len - 1 - i))
    return higher ||| x.toNat

/-- The bits under a mask, moved down to the lowest one. -/
def takeMasked (offset m : Nat) (order : ByteOrder) : Work Nat := do
  let n ← takeInteger order offset (maskWidth m)
  shiftRight (n &&& m) (trailingZeros m)

/-- The integer in a bit range, gathered from its lowest bit on. -/
def takeBits (offset width : Nat) : Work Nat :=
  gather width fun i n => do
    let x ← takeByte ((offset + i) / 8)
    let bit ← shiftLeft (x.toNat.testBit ((offset + i) % 8)).toNat i
    return n ||| bit

/-- Reads a field. -/
def load : Spec → Work Value
  | .mask offset m order => return .uint (← takeMasked offset m order)
  | .bytes offset len .raw => return .bytes (← takeBytes offset len)
  | .bytes offset len .littleEndian => return .uint (← takeInteger .little offset len)
  | .bytes offset len .bigEndian => return .uint (← takeInteger .big offset len)
  | .bytes offset len .text => return .text (Padded.ofBytes (← takeBytes offset len))
  | .bits offset width => return .uint (← takeBits offset width)

/-- Reads a field that has to lie inside the buffer. -/
def decodeField (s : Spec) (name : String) : Work Value := do
  if 2 ^ 64 ≤ reach s then throw .endOverflow
  match s.checkBounds name (← get).length with
  | .ok () => load s
  | .error e => throw (.refused e)

/-! ## Reading a table -/

section

variable {ι : Type} [Named ι]

/-- Reads fields, in order. -/
def loadAll : List (ι × Spec) → Work (List (ι × Value))
  | [] => return []
  | (id, s) :: rest => do
    let v ← decodeField s (Named.name id)
    return (id, v) :: (← loadAll rest)

/-- Reads every field. -/
def decode (t : Table ι) : Work (Values ι) := do return ⟨← loadAll t.fields⟩

/-- Reads one field, if the table has it. -/
def decodeOne [DecidableEq ι] (t : Table ι) (id : ι) : Work (Option Value) :=
  match t.spec? id with
  | none => return none
  | some s => do return some (← decodeField s (Named.name id))

end

/-! ## What is read -/

variable {b : Bytes}

theorem runs_takeByte {i : Nat} (h : i < b.length) : Runs (takeByte i) b (b.byteAt i) b := by
  refine Runs.bind (a := b) (c := b) rfl ?_
  rw [List.getElem?_eq_getElem h, byteAt_eq_getElem h]
  rfl

theorem runs_takeBytes {offset len : Nat} (h : offset + len ≤ b.length) :
    Runs (takeBytes offset len) b (b.slice offset len) b :=
  (runs_range h).bind rfl

/-- A loop that gathers a number, by what it has between its rounds. -/
theorem runs_gather {f : Nat → Nat → Work Nat} (between : Nat → Nat) (h0 : between 0 = 0) {n : Nat}
    (h : ∀ i < n, Runs (f i (between i)) b (between (i + 1)) b) : Runs (gather n f) b (between n) b := by
  induction n with
  | zero =>
    rw [h0]
    rfl
  | succ n ih => exact (ih fun i hi => h i (Nat.lt_succ_of_lt hi)).bind (h n (Nat.lt_succ_self n))

/-- A number is its higher digits, moved up, with its lowest byte below them. -/
theorem shiftRight_shiftLeft_or (n : Nat) : (n >>> 8) <<< 8 ||| n % 2 ^ 8 = n := by
  apply Nat.eq_of_testBit_eq
  intro i
  rw [Nat.testBit_or, Nat.testBit_shiftLeft, Nat.testBit_shiftRight, Nat.testBit_mod_two_pow]
  by_cases hi : 8 ≤ i
  · rw [decide_eq_true hi, decide_eq_false (by omega), Nat.add_sub_cancel' hi, Bool.true_and, Bool.false_and,
      Bool.or_false]
  · rw [decide_eq_false hi, decide_eq_true (by omega), Bool.false_and, Bool.true_and, Bool.false_or]

/-- A machine word has room for the digits from one on, with the one below them. -/
theorem digits_step {n : Nat} (h : n < 2 ^ 64) (j : Nat) :
    (n >>> (8 * (j + 1))) <<< 8 % 2 ^ 64 ||| n >>> (8 * j) % 2 ^ 8 = n >>> (8 * j) := by
  have hle : (n >>> (8 * j)) >>> 8 <<< 8 ≤ n >>> (8 * j) := by
    rw [Nat.shiftLeft_eq, Nat.shiftRight_eq_div_pow _ 8]
    exact Nat.div_mul_le_self ..
  have hword : n >>> (8 * j) < 2 ^ 64 := Nat.lt_of_le_of_lt (Nat.shiftRight_le ..) h
  rw [Nat.mul_succ, Nat.shiftRight_add, Nat.mod_eq_of_lt (Nat.lt_of_le_of_lt hle hword), shiftRight_shiftLeft_or]

/-- **A loop over the bytes of a range** gathers the integer that is stored there, in either byte order. Before round
`i` it has the digits of the `i` highest bytes. -/
theorem runs_takeInteger (order : ByteOrder) {offset len : Nat} (h : offset + len ≤ b.length) (h8 : len ≤ 8) :
    Runs (takeInteger order offset len) b (order.read (b.slice offset len)) b := by
  have hlength := length_slice h
  have hlt := Spec.lt_of_le_widthMax (Spec.read_slice_le order b offset len)
  have hword : order.read (b.slice offset len) < 2 ^ 64 :=
    Nat.lt_of_lt_of_le hlt (Nat.pow_le_pow_right Nat.two_pos (by omega))
  refine (runs_range h).bind ?_
  have hall : order.read (b.slice offset len) >>> (8 * (len - len)) = order.read (b.slice offset len) := by
    rw [Nat.sub_self, Nat.mul_zero, Nat.shiftRight_zero]
  rw [← hall]
  refine runs_gather (fun i => order.read (b.slice offset len) >>> (8 * (len - i))) ?_ fun i hi => ?_
  · rw [Nat.shiftRight_eq_div_pow]
    exact Nat.div_eq_of_lt hlt
  · have hdigit : len - 1 - i < len := by omega
    have hplace := order.place_lt hdigit
    have hbyte := order.toNat_byteAt_place (b := b.slice offset len) (hlength ▸ hdigit)
    rw [hlength, byteAt_slice, if_pos hplace] at hbyte
    -- the digits from the byte of this round on
    have hround : len - (i + 1) = len - 1 - i := by omega
    have hnext : len - 1 - i + 1 = len - i := by omega
    have hkept := digits_step hword (len - 1 - i)
    rw [hnext, ← hbyte] at hkept
    rw [hround, ← hkept]
    exact (runs_shiftLeft _ (by decide)).bind ((runs_takeByte (by omega)).bind rfl)

theorem runs_takeMasked {offset m : Nat} (order : ByteOrder) (h : offset + maskWidth m ≤ b.length) (h0 : 0 < m)
    (h64 : m < 2 ^ 64) :
    Runs (takeMasked offset m order) b
      ((order.read (b.slice offset (maskWidth m)) &&& m) >>> trailingZeros m) b :=
  (runs_takeInteger order h (maskWidth_le h64)).bind (runs_shiftRight _ (trailingZeros_lt h0 h64))

theorem runs_takeBits {offset width : Nat} (h : offset + width ≤ 8 * b.length) (h64 : width ≤ 64) :
    Runs (takeBits offset width) b (b.readBits offset width) b := by
  refine runs_gather (b.readBits offset) rfl fun i hi => ?_
  have hbit : (b.bitAt (offset + i)).toNat <<< i % 2 ^ 64 = (b.bitAt (offset + i)).toNat <<< i := by
    apply Nat.mod_eq_of_lt
    have hone : (b.bitAt (offset + i)).toNat ≤ 1 := Bool.toNat_le _
    calc (b.bitAt (offset + i)).toNat <<< i
      _ = (b.bitAt (offset + i)).toNat * 2 ^ i := Nat.shiftLeft_eq ..
      _ ≤ 1 * 2 ^ i := Nat.mul_le_mul_right _ hone
      _ < 2 ^ 64 := by rw [Nat.one_mul]; exact Nat.pow_lt_pow_right Nat.one_lt_two (by omega)
  rw [readBits_succ, ← hbit]
  exact (runs_takeByte (by omega)).bind ((runs_shiftLeft _ (by omega)).bind rfl)

/-- **One field**: a field that can be built is read without a halt in a buffer that has it. -/
theorem runs_load {s : Spec} (hw : s.WellFormed) (hm : MachineSized s) (h : s.stop ≤ b.length) :
    Runs (load s) b (s.read b) b := by
  cases s with
  | mask offset m order => exact (runs_takeMasked order h hw hm.1).bind rfl
  | bytes offset len transform =>
    cases transform with
    | raw | text => exact (runs_takeBytes h).bind rfl
    | littleEndian | bigEndian => exact (runs_takeInteger _ h (hw.resolve_left nofun)).bind rfl
  | bits offset width =>
    simp only [Spec.stop] at h
    exact (runs_takeBits (by omega) hw.2).bind rfl

theorem run_decodeField {s : Spec} (hw : s.WellFormed) (hm : MachineSized s) (name : String) (b : Bytes) :
    (decodeField s name).run.run b = ((s.decode name b).mapError Halt.refused, b) := by
  rw [decodeField, if_neg (Nat.not_le.2 hm.reach_lt), Spec.decode]
  change ((match s.checkBounds name b.length with
    | .ok () => load s
    | .error e => throw (.refused e) : Work Value).run.run b) = _
  cases hc : s.checkBounds name b.length with
  | error e => rfl
  | ok u =>
    have hstop : s.stop ≤ b.length := by
      unfold Spec.checkBounds at hc
      split at hc
      · cases hc
      · omega
    exact runs_load hw hm hstop

section

variable {ι : Type} [Named ι]

/-- The fields are read one after the other, up to the first that the buffer does not have. -/
theorem run_loadAll {fields : List (ι × Spec)} (hf : ∀ f ∈ fields, f.2.WellFormed ∧ MachineSized f.2) (b : Bytes) :
    (loadAll fields).run.run b = ((fields.mapM (Table.decodeEntry b)).mapError Halt.refused, b) := by
  induction fields with
  | nil => rfl
  | cons f fields ih =>
    obtain ⟨hhead, hrest⟩ := List.forall_mem_cons.1 hf
    have hfield := run_decodeField hhead.1 hhead.2 (Named.name f.1) b
    specialize ih hrest
    rw [loadAll, List.mapM_cons, Table.decodeEntry]
    cases hd : f.2.decode (Named.name f.1) b with
    | error e =>
      rw [hd] at hfield
      exact run_bind_of_halt _ hfield
    | ok v =>
      rw [hd] at hfield
      rw [run_bind hfield]
      cases hall : fields.mapM (Table.decodeEntry b) with
      | error e =>
        rw [hall] at ih
        exact run_bind_of_halt _ ih
      | ok entries =>
        rw [hall] at ih
        exact run_bind ih

/-- **All of a table**: decoding step by step ends as `Table.decode` does, and leaves the buffer as it is. -/
theorem run_decode {t : Table ι} (ht : ∀ f ∈ t.fields, f.2.WellFormed ∧ MachineSized f.2) (b : Bytes) :
    (decode t).run.run b = ((t.decode b).mapError Halt.refused, b) := by
  have hall := run_loadAll ht b
  rw [decode, Table.decode_eq]
  cases hm : t.fields.mapM (Table.decodeEntry b) with
  | error e =>
    rw [hm] at hall
    exact run_bind_of_halt _ hall
  | ok entries =>
    rw [hm] at hall
    exact run_bind hall

theorem run_decodeOne [DecidableEq ι] {t : Table ι} (ht : ∀ f ∈ t.fields, f.2.WellFormed ∧ MachineSized f.2) (id : ι)
    (b : Bytes) : (decodeOne t id).run.run b = ((t.decodeOne id b).mapError Halt.refused, b) := by
  rw [decodeOne, Table.decodeOne]
  cases hs : t.spec? id with
  | none => rfl
  | some s =>
    obtain ⟨hw, hm⟩ := ht _ (Table.mem_of_spec? hs)
    have hfield := run_decodeField hw hm (Named.name id) b
    dsimp only
    cases hd : s.decode (Named.name id) b with
    | error e =>
      rw [hd] at hfield
      exact run_bind_of_halt _ hfield
    | ok v =>
      rw [hd] at hfield
      exact run_bind hfield

end

end InPlace

namespace Table

variable {ι : Type}

/-! ## What decoding gives -/

/-- A buffer has every field if it is not shorter than the shortest such buffer. -/
theorem minLength_le_iff {t : Table ι} {n : Nat} : t.minLength ≤ n ↔ ∀ f ∈ t.fields, f.2.stop ≤ n := by
  constructor
  · intro h f hf
    exact Nat.le_trans (stop_le_minLength hf) h
  · intro h
    have hfold : ∀ k ≤ n, t.fields.foldl (fun len f => max len f.2.stop) k ≤ n := by
      generalize t.fields = fields at h
      induction fields with
      | nil => exact fun k hk => hk
      | cons f fields ih =>
        obtain ⟨hf, hrest⟩ := List.forall_mem_cons.1 h
        exact fun k hk => ih hrest _ (Nat.max_le.2 ⟨hk, hf⟩)
    exact hfold 0 (Nat.zero_le n)

variable [Named ι]

/-- The first field that a buffer of a length does not have, and how far it reaches. -/
def Lacks (t : Table ι) (len : Nat) (err : Error) : Prop :=
  ∃ before f after, t.fields = before ++ f :: after ∧ (∀ g ∈ before, g.2.stop ≤ len) ∧ len < f.2.stop
    ∧ err = .bufferTooSmall (Named.name f.1) f.2.stop len

theorem decodeEntry_eq_ok {b : Bytes} {f : ι × Spec} (h : f.2.stop ≤ b.length) :
    decodeEntry b f = .ok (f.1, f.2.read b) := by
  rw [decodeEntry, Spec.decode, Spec.checkBounds, if_neg (Nat.not_lt.2 h)]
  rfl

theorem decodeEntry_eq_error {b : Bytes} {f : ι × Spec} (h : b.length < f.2.stop) :
    decodeEntry b f = .error (.bufferTooSmall (Named.name f.1) f.2.stop b.length) := by
  rw [decodeEntry, Spec.decode, Spec.checkBounds, if_pos h]
  rfl

theorem Lacks.decode {t : Table ι} {b : Bytes} {err : Error} (h : t.Lacks b.length err) : t.decode b = .error err := by
  obtain ⟨before, f, after, hfields, hbefore, hlt, rfl⟩ := h
  have hmap : (before ++ f :: after).mapM (decodeEntry b)
      = .error (.bufferTooSmall (Named.name f.1) f.2.stop b.length) := by
    clear hfields
    induction before with
    | nil =>
      rw [List.nil_append, List.mapM_cons, decodeEntry_eq_error hlt]
      rfl
    | cons g before ih =>
      obtain ⟨hg, hrest⟩ := List.forall_mem_cons.1 hbefore
      rw [List.cons_append, List.mapM_cons, decodeEntry_eq_ok hg, ih hrest]
      rfl
  rw [decode_eq, hfields, hmap]
  rfl

/-- Of fields that a buffer does not all have, one is the first. -/
theorem exists_lacks {t : Table ι} {len : Nat} (h : len < t.minLength) : ∃ err, t.Lacks len err := by
  cases hfind : t.fields.find? fun f => decide (len < f.2.stop) with
  | none =>
    have hall : ∀ f ∈ t.fields, f.2.stop ≤ len := fun f hf => by simpa using List.find?_eq_none.1 hfind f hf
    exact absurd (minLength_le_iff.2 hall) (Nat.not_le.2 h)
  | some f =>
    obtain ⟨hf, before, after, hfields, hbefore⟩ := List.find?_eq_some_iff_append.1 hfind
    refine ⟨_, before, f, after, hfields, fun g hg => ?_, of_decide_eq_true hf, rfl⟩
    simpa using hbefore g hg

/-- **When a buffer is decoded.** -/
theorem decode_isOk_iff {t : Table ι} {b : Bytes} : (∃ values, t.decode b = .ok values) ↔ t.minLength ≤ b.length := by
  constructor
  · rintro ⟨values, h⟩
    exact minLength_le_iff.2 fun f hf => stop_le_of_decode h hf
  · intro h
    exact ⟨_, decode_eq_ok h⟩

/-- What is decoded is the value of each entry, in table order. -/
theorem entries_of_decode {t : Table ι} {b : Bytes} {values : Values ι} (h : t.decode b = .ok values) :
    values.entries = t.fields.map fun f => (f.1, f.2.read b) := by
  cases (decode_eq_ok (decode_isOk_iff.1 ⟨values, h⟩)).symm.trans h
  rfl

/-- **Why a buffer is not decoded.** -/
theorem decode_eq_error_iff {t : Table ι} {b : Bytes} {err : Error} :
    t.decode b = .error err ↔ t.Lacks b.length err := by
  refine ⟨fun h => ?_, Lacks.decode⟩
  have hshort : b.length < t.minLength := by
    by_contra hlong
    rw [decode_eq_ok (Nat.le_of_not_lt hlong)] at h
    cases h
  obtain ⟨err', herr⟩ := exists_lacks hshort
  cases herr.decode.symm.trans h
  exact herr

variable [DecidableEq ι]

/-- What decoding has for a field is read at its first entry. -/
theorem get?_of_decode {t : Table ι} {b : Bytes} {values : Values ι} (h : t.decode b = .ok values) (id : ι) :
    values.get? id = (t.spec? id).map (·.read b) := by
  rw [Values.get?, entries_of_decode h, List.find?_map, spec?, Option.map_map, Option.map_map]
  rfl

/-- The integer that decoding has for a field. -/
theorem uint_of_decode {t : Table ι} {b : Bytes} {values : Values ι} (h : t.decode b = .ok values) {id : ι} {s : Spec}
    {n : Nat} (hs : t.spec? id = some s) (hn : s.read b = .uint n) : values.uint id = n := by
  rw [Values.uint, Values.uint?, get?_of_decode h, hs, Option.map_some, hn]
  rfl

/-- The text that decoding has for a field. -/
theorem text_of_decode {t : Table ι} {b : Bytes} {values : Values ι} (h : t.decode b = .ok values) {id : ι} {s : Spec}
    {x : String} (hs : t.spec? id = some s) (hx : s.read b = .text x) : values.text id = x := by
  rw [Values.text, Values.text?, get?_of_decode h, hs, Option.map_some, hx]
  rfl

/-- **One field** is read as all of decoding has it: at its first entry, if it has one. -/
theorem decodeOne_eq_get? {t : Table ι} {b : Bytes} {values : Values ι} (h : t.decode b = .ok values) (id : ι) :
    t.decodeOne id b = .ok (values.get? id) := by
  rw [get?_of_decode h]
  cases hs : t.spec? id with
  | none => rw [decodeOne, hs, Option.map_none]
  | some s => exact (decodeOne_eq_ok_iff hs).2 ⟨stop_le_of_decode h (mem_of_spec? hs), rfl⟩

/-- **Decoding succeeds exactly on buffers that are long enough**, in tables of fields that can be built, whose numbers
are machine words.

It gives one value for each entry of the table, in table order. On a shorter buffer it reports the first field that
reaches past the end. Where it succeeds, each field can be read on its own and gives the value that the set has for it:
of a field that is listed twice, that of the first entry, and of a field that is not listed, none. Done step by step,
all this ends in the same way: no byte or range is taken that is not inside the buffer, and there is no other halt. -/
theorem decode_exact (t : Table ι) (ht : ∀ f ∈ t.fields, f.2.Built ∧ InPlace.MachineSized f.2) (b : Bytes) :
    ((∃ values, t.decode b = .ok values) ↔ t.minLength ≤ b.length)
      ∧ (∀ values, t.decode b = .ok values → values.entries = t.fields.map fun f => (f.1, f.2.read b))
      ∧ (∀ err, t.decode b = .error err ↔ t.Lacks b.length err)
      ∧ (∀ values, t.decode b = .ok values → ∀ id, t.decodeOne id b = .ok (values.get? id))
      ∧ (InPlace.decode t).run.run b = ((t.decode b).mapError .refused, b)
      ∧ ∀ id, (InPlace.decodeOne t id).run.run b = ((t.decodeOne id b).mapError .refused, b) := by
  have hfields : ∀ f ∈ t.fields, f.2.WellFormed ∧ InPlace.MachineSized f.2 := fun f hf =>
    ⟨(ht f hf).1.wellFormed, (ht f hf).2⟩
  exact ⟨decode_isOk_iff, fun values => entries_of_decode, fun err => decode_eq_error_iff,
    fun values => decodeOne_eq_get?, InPlace.run_decode hfields b, fun id => InPlace.run_decodeOne hfields id b⟩

/-- A field that is listed twice, a bit range over two bytes, and an empty range. -/
def raggedTable : Table String :=
  ⟨[("mode", .mask 0 0x0FF0 .little), ("straddle", .bits 13 9), ("mode", .bytes 1 2 .bigEndian),
    ("none", .bytes 6 0 .raw), ("serial", .bytes 2 4 .text)]⟩

/-- Six bytes are enough, and the mode is the one that is listed first. Of two bytes the bit range is the first to reach
past the end, although other fields end later. -/
theorem decode_exact_ragged : (let b : Bytes := [0x12, 0x34, 0x41, 0x42, 0x20, 0x00]
    (∃ values, raggedTable.decode b = .ok values ∧ (InPlace.decode raggedTable).run.run b = (.ok values, b)
        ∧ values.entries.map Prod.fst = ["mode", "straddle", "mode", "none", "serial"]
        ∧ values.get? "mode" = some (.uint 0x41) ∧ raggedTable.decodeOne "mode" b = .ok (values.get? "mode")
        ∧ values.get? "color" = none ∧ raggedTable.decodeOne "color" b = .ok (values.get? "color"))
      ∧ (InPlace.decode raggedTable).run.run (b.take 2)
        = (.error (.refused (.bufferTooSmall "straddle" 3 2)), b.take 2)) := by
  intro b
  have ht : ∀ f ∈ raggedTable.fields, f.2.Built ∧ InPlace.MachineSized f.2 := by decide
  obtain ⟨hok, hentries, -, hone, hrun, -⟩ := decode_exact raggedTable ht b
  obtain ⟨-, -, hlacks, -, hhalt, -⟩ := decode_exact raggedTable ht (b.take 2)
  refine ⟨?_, ?_⟩
  · obtain ⟨values, hvalues⟩ := hok.2 (by decide +kernel)
    have hlist := hentries values hvalues
    have hmode : values.get? "mode" = some (.uint 0x41) := by
      rw [Values.get?, hlist]
      decide +kernel
    have hcolor : values.get? "color" = none := by
      rw [Values.get?, hlist]
      decide +kernel
    rw [hvalues] at hrun
    exact ⟨values, hvalues, hrun, by rw [hlist]; rfl, hmode, hone values hvalues _, hcolor, hone values hvalues _⟩
  · have herror := (hlacks _).2 ⟨[("mode", .mask 0 0x0FF0 .little)], ("straddle", .bits 13 9), _, rfl,
      by decide +kernel, by decide, rfl⟩
    rw [herror] at hhalt
    exact hhalt

end Table

end StorageCommands.Layout
