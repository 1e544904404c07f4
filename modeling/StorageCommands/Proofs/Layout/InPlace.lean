import StorageCommands.Proofs.Layout.Integers

/-!
# Encoding in place

`Table.encode` gives a new buffer. Here the same is done step by step on one buffer, as a driver does it: bytes are
changed one at a time, integers are machine words, and each step says what it needs. A byte that is changed and a range
that is taken have to lie inside the buffer, a shift has to stay below 64 bits, and writing has no case for a value that
its field does not take. A step that does not get what it needs halts (`Halt`), and what was changed before stays
changed.

- `runs_store`: a field that can be built stores a value that passes its check without a halt, and leaves what
  `Spec.write` says. The loops over bytes are all instances of `runs_each_overwrite`.
- `run_encode`: all the encoding of a table halts for one reason only, that a value is refused; then nothing was
  changed.
-/

namespace StorageCommands.ByteOrder

open Bytes

/-- The place of byte `i` of an integer of `n` bytes, counted from the lowest one. -/
def place : ByteOrder → Nat → Nat → Nat
  | little, _, i => i
  | big, n, i => n - 1 - i

theorem place_lt (order : ByteOrder) {n i : Nat} (h : i < n) : order.place n i < n := by
  cases order with
  | little => exact h
  | big => simp only [place]; omega

theorem place_place (order : ByteOrder) {n i : Nat} (h : i < n) : order.place n (order.place n i) = i := by
  cases order with
  | little => rfl
  | big => simp only [place]; omega

theorem position_eq_place (order : ByteOrder) (n : Nat) {i k : Nat} (hk : k < 8) :
    order.position n (8 * i + k) = 8 * order.place n i + k := by
  have hdiv : (8 * i + k) / 8 = i := by omega
  have hmod : (8 * i + k) % 8 = k := by omega
  cases order with
  | little => rfl
  | big => rw [position, place, hdiv, hmod]

/-- The bytes of an integer, one by one. -/
theorem byteAt_write (order : ByteOrder) {n i : Nat} (v : Nat) (h : i < n) :
    (order.write n v).byteAt i = UInt8.ofNat (v >>> (8 * order.place n i)) := by
  apply eq_of_testBit
  intro k hk
  rw [testBit_byteAt _ _ hk, order.bitAt_write v (by omega), order.position_eq_place n hk, UInt8.toNat_ofNat',
    Nat.testBit_mod_two_pow, Nat.testBit_shiftRight, decide_eq_true hk, Bool.true_and]

end StorageCommands.ByteOrder

namespace StorageCommands.Layout

open Bytes

namespace InPlace

/-! ## Work on a buffer -/

/-- Why work on a buffer does not go on. -/
inductive Halt
  /-- A value cannot be stored. -/
  | refused (e : Error)
  /-- The end of a field is no machine word. -/
  | endOverflow
  /-- A byte or a range is not inside the buffer. -/
  | outOfBounds
  /-- A shift by 64 bits or more. -/
  | wideShift
  /-- There is no way to write such a value to such a field. -/
  | unhandled
  deriving DecidableEq, Repr

/-- Work on a buffer. After a halt, the buffer is as it was left. -/
abbrev Work (α : Type) := ExceptT Halt (StateM Bytes) α

/-- Changes a byte. -/
def update (i : Nat) (f : UInt8 → UInt8) : Work Unit := do
  if i < (← get).length then modify fun b => b.modify i f else throw .outOfBounds

/-- Takes a range of bytes. -/
def range (offset len : Nat) : Work Unit := do
  if (← get).length < offset + len then throw .outOfBounds

/-- Shifts a machine word to the left. -/
def shiftLeft (n k : Nat) : Work Nat := if k < 64 then return (n <<< k) % 2 ^ 64 else throw .wideShift

/-- Shifts a machine word to the right. -/
def shiftRight (n k : Nat) : Work Nat := if k < 64 then return n >>> k else throw .wideShift

/-- Works for every number below `n`, from zero on. -/
def each : Nat → (Nat → Work Unit) → Work Unit
  | 0, _ => return
  | n + 1, f => do
    each n f
    f n

/-- The bytes that work leaves in a buffer of its own, which is made of zeros. -/
def scratch (len : Nat) (work : Work Unit) : Work Bytes :=
  match work.run.run (zeros len) with
  | (.ok (), new) => return new
  | (.error h, _) => throw h

/-! ## Storing one field -/

/-- Puts the bytes of an integer into a range, beginning with the lowest one. -/
def putInteger (order : ByteOrder) (offset len n : Nat) : Work Unit := do
  range offset len
  each len fun i => do
    let digits ← shiftRight n (8 * i)
    update (offset + order.place len i) fun _ => UInt8.ofNat digits

/-- Copies a byte string to the start of a range, as far as both reach. -/
def putBytes (offset len : Nat) (new : Bytes) : Work Unit := do
  range offset len
  each (min len new.length) fun i => update (offset + i) fun _ => new.byteAt i

/-- Sets the bits that a mask selects of a shifted integer. -/
def putMasked (offset m : Nat) (order : ByteOrder) (n : Nat) : Work Unit := do
  let shifted ← shiftLeft n (trailingZeros m)
  let new ← scratch 8 (putInteger order 0 (maskWidth m) (shifted &&& m))
  range offset (maskWidth m)
  each (maskWidth m) fun i => update (offset + i) (· ||| new.byteAt i)

/-- Puts the low binary digits of an integer into a bit range. -/
def putBits (offset width n : Nat) : Work Unit :=
  each width fun i => do
    let digits ← shiftRight n i
    update ((offset + i) / 8) fun x => withBit x ((offset + i) % 8) (digits.testBit 0)

/-- Stores a value in a field. -/
def store (s : Spec) (v : Value) : Work Unit :=
  match s, v with
  | .mask offset m order, .uint n => putMasked offset m order n
  | .bytes offset len transform, .uint n => putInteger (transform.order?.getD .little) offset len n
  | .bytes offset len _, .bytes new => putBytes offset len new
  | .bytes offset len _, .text t => putBytes offset len (Utf8.encode t)
  | .bits offset width, .uint n => putBits offset width n
  | _, _ => throw .unhandled

/-! ## Storing values -/

/-- The end of a field, in bits if the field is a bit range. -/
def reach : Spec → Nat
  | .mask offset m _ => offset + maskWidth m
  | .bytes offset len _ => offset + len
  | .bits offset width => offset + width

/-- Checks whether a field can store a value. -/
def checkField (s : Spec) (name : String) (v : Value) : Work Unit := do
  if 2 ^ 64 ≤ reach s then throw .endOverflow
  match s.check name v (← get).length with
  | .ok () => return
  | .error e => throw (.refused e)

variable {ι : Type} [DecidableEq ι] [Named ι]

/-- Checks the values whose fields the table has, in order, and lists what is to be stored. -/
def pending (t : Table ι) : List (ι × Value) → Work (List (Spec × Value))
  | [] => return []
  | (id, v) :: rest =>
    match t.spec? id with
    | none => pending t rest
    | some s => do
      checkField s (Named.name id) v
      return (s, v) :: (← pending t rest)

/-- Stores the values on a list. -/
def storeAll : List (Spec × Value) → Work Unit
  | [] => return
  | (s, v) :: rest => do
    store s v
    storeAll rest

/-- Checks all values, and then stores them. -/
def encode (t : Table ι) (values : Values ι) : Work Unit := do
  storeAll (← pending t values.entries)

/-! ## Runs -/

/-- The work ends with a result and leaves a buffer. -/
def Runs {α : Type} (w : Work α) (b : Bytes) (a : α) (c : Bytes) : Prop := w.run.run b = (.ok a, c)

variable {α β : Type} {b c : Bytes}

/-- Work after work that ends. -/
theorem run_bind {x : Work β} {f : β → Work α} {a : β} (h : Runs x b a c) :
    (x >>= f).run.run b = (f a).run.run c := by
  change (ExceptT.bindCont f (x.run.run b).1).run (x.run.run b).2 = _
  rw [show x.run.run b = _ from h]
  rfl

/-- There is no work after a halt. -/
theorem run_bind_of_halt {x : Work β} (f : β → Work α) {h : Halt} (hx : x.run.run b = (.error h, c)) :
    (x >>= f).run.run b = (.error h, c) := by
  change (ExceptT.bindCont f (x.run.run b).1).run (x.run.run b).2 = _
  rw [hx]
  rfl

theorem Runs.bind {x : Work β} {f : β → Work α} {a : β} {r : α} {d : Bytes} (h : Runs x b a c)
    (hf : Runs (f a) c r d) : Runs (x >>= f) b r d :=
  (run_bind h).trans hf

theorem runs_update {i : Nat} (f : UInt8 → UInt8) (h : i < b.length) : Runs (update i f) b () (b.modify i f) := by
  refine Runs.bind (a := b) (c := b) rfl ?_
  rw [if_pos h]
  rfl

theorem runs_range {offset len : Nat} (h : offset + len ≤ b.length) : Runs (range offset len) b () b := by
  refine Runs.bind (a := b) (c := b) rfl ?_
  rw [if_neg (Nat.not_lt.2 h)]
  rfl

theorem runs_shiftLeft (n : Nat) {k : Nat} (h : k < 64) : Runs (shiftLeft n k) b ((n <<< k) % 2 ^ 64) b := by
  rw [shiftLeft, if_pos h]
  rfl

theorem runs_shiftRight (n : Nat) {k : Nat} (h : k < 64) : Runs (shiftRight n k) b (n >>> k) b := by
  rw [shiftRight, if_pos h]
  rfl

theorem runs_scratch {len : Nat} {work : Work Unit} (h : Runs work (zeros len) () c) :
    Runs (scratch len work) b c b := by
  rw [scratch, show work.run.run (zeros len) = _ from h]
  rfl

/-- A loop, by the buffers between its rounds. -/
theorem runs_each {f : Nat → Work Unit} (between : Nat → Bytes) {n : Nat}
    (h : ∀ i < n, Runs (f i) (between i) () (between (i + 1))) : Runs (each n f) (between 0) () (between n) := by
  induction n with
  | zero => rfl
  | succ n ih => exact (ih fun i hi => h i (Nat.lt_succ_of_lt hi)).bind (h n (Nat.lt_succ_self n))

/-- **A loop that changes each byte at most once** leaves every byte changed that it comes to, and the others as they
were. -/
theorem runs_each_modify {f : Nat → Work Unit} {place : Nat → Nat} {change : Nat → UInt8 → UInt8} {n : Nat}
    (hf : ∀ i < n, ∀ c : Bytes, c.length = b.length → Runs (f i) c () (c.modify (place i) (change i)))
    (hplace : ∀ i < n, place i < b.length) (hinj : ∀ i < n, ∀ j < n, place i = place j → i = j) :
    ∃ c, Runs (each n f) b () c ∧ c.length = b.length
      ∧ (∀ i < n, c.byteAt (place i) = change i (b.byteAt (place i)))
      ∧ ∀ k, (∀ i < n, place i ≠ k) → c.byteAt k = b.byteAt k := by
  induction n with
  | zero => exact ⟨b, rfl, rfl, fun i hi => absurd hi (Nat.not_lt_zero i), fun _ _ => rfl⟩
  | succ n ih =>
    obtain ⟨c, hruns, hlength, hchanged, hsame⟩ := ih (fun i hi => hf i (Nat.lt_succ_of_lt hi))
      (fun i hi => hplace i (Nat.lt_succ_of_lt hi))
      fun i hi j hj => hinj i (Nat.lt_succ_of_lt hi) j (Nat.lt_succ_of_lt hj)
    have hn : place n < c.length := hlength ▸ hplace n (Nat.lt_succ_self n)
    refine ⟨_, hruns.bind (hf n (Nat.lt_succ_self n) c hlength), (List.length_modify ..).trans hlength, ?_, ?_⟩
    · intro i hi
      rw [byteAt_modify _ hn]
      by_cases hin : place n = place i
      · -- the last round, which no earlier one has come before
        have hi' : i = n := (hinj n (Nat.lt_succ_self n) i hi hin).symm
        subst hi'
        rw [if_pos rfl, hsame _ fun j hj he => Nat.ne_of_lt hj (hinj j (Nat.lt_succ_of_lt hj) i hi he)]
      · rw [if_neg hin]
        exact hchanged i (Nat.lt_of_le_of_ne (Nat.le_of_lt_succ hi) fun he => hin (by rw [he]))
    · intro k hk
      rw [byteAt_modify _ hn, if_neg (hk n (Nat.lt_succ_self n))]
      exact hsame k fun i hi => hk i (Nat.lt_succ_of_lt hi)

/-! ## What a field stores -/

/-- **A loop over a range**, forwards or backwards, puts there what each round leaves at its place. -/
theorem runs_each_overwrite (place : Nat → Nat) {f : Nat → Work Unit} {change : Nat → UInt8 → UInt8} {offset n : Nat}
    {new : Bytes} (hn : new.length = n) (h : offset + n ≤ b.length)
    (hf : ∀ i < n, ∀ c : Bytes, c.length = b.length → Runs (f i) c () (c.modify (offset + place i) (change i)))
    (hlt : ∀ i < n, place i < n) (hplace : ∀ i < n, place (place i) = i)
    (hnew : ∀ i < n, change (place i) (b.byteAt (offset + i)) = new.byteAt i) :
    Runs (each n f) b () (b.overwrite offset new) := by
  obtain ⟨c, hruns, hlength, hchanged, hsame⟩ := runs_each_modify hf
    (fun i hi => by have := hlt i hi; omega)
    fun i hi j hj he => by rw [← hplace i hi, ← hplace j hj, Nat.add_left_cancel he]
  have hc : c = b.overwrite offset new := by
    apply eq_of_byteAt
    · rw [hlength, length_overwrite (by omega)]
    · intro k _
      rw [byteAt_overwrite (by omega)]
      by_cases hk : offset ≤ k ∧ k < offset + new.length
      · obtain ⟨i, rfl⟩ := Nat.exists_eq_add_of_le hk.1
        have hi : i < n := by omega
        have hbyte := hchanged (place i) (hlt i hi)
        rw [hplace i hi] at hbyte
        rw [if_pos hk, Nat.add_sub_cancel_left, hbyte, hnew i hi]
      · rw [if_neg hk]
        exact hsame k fun i hi => by have := hlt i hi; omega
  rw [← hc]
  exact hruns

theorem runs_putInteger (order : ByteOrder) {offset len : Nat} (n : Nat) (h : offset + len ≤ b.length) (h8 : len ≤ 8) :
    Runs (putInteger order offset len n) b () (b.overwrite offset (order.write len n)) := by
  refine (runs_range h).bind (runs_each_overwrite (order.place len) (order.length_write len n) h
    (fun i hi c hc => (runs_shiftRight n (by omega)).bind (runs_update _ ?_)) (fun i => order.place_lt)
    (fun i => order.place_place) fun i hi => (order.byteAt_write n hi).symm)
  have := order.place_lt hi
  omega

theorem runs_putBytes {offset len : Nat} (new : Bytes) (h : offset + len ≤ b.length) :
    Runs (putBytes offset len new) b () (Spec.copyInto b offset len new) := by
  refine (runs_range h).bind (runs_each_overwrite id (List.length_take ..) (by omega)
    (fun i hi c hc => runs_update _ (by omega)) (fun i hi => hi) (fun i _ => rfl) fun i hi => ?_)
  rw [byteAt_take, if_pos (by omega)]
  rfl

/-- A mask of a machine word spans at most 8 bytes. -/
theorem maskWidth_le {m : Nat} (h : m < 2 ^ 64) : maskWidth m ≤ 8 := by
  have hlength : bitLength m ≤ 64 := by
    unfold bitLength
    split
    · omega
    · rename_i hm
      have := (Nat.log2_lt hm).2 h
      omega
  unfold maskWidth
  omega

/-- The lowest bit of a mask is one of a machine word. -/
theorem trailingZeros_lt {m : Nat} (h0 : 0 < m) (h : m < 2 ^ 64) : trailingZeros m < 64 := by
  obtain ⟨i, hi⟩ := Nat.exists_testBit_of_ne_zero (Nat.ne_of_gt h0)
  have hle := trailingZeros_le hi
  by_contra hlarge
  have hpow : 2 ^ 64 ≤ 2 ^ i := Nat.pow_le_pow_right Nat.two_pos (by omega)
  rw [Nat.testBit_lt_two_pow (Nat.lt_of_lt_of_le h hpow)] at hi
  cases hi

/-- A mask of a machine word selects nothing that is shifted out of one. -/
theorem mod_and (x : Nat) {m : Nat} (h : m < 2 ^ 64) : x % 2 ^ 64 &&& m = x &&& m := by
  have hle : x &&& m < 2 ^ 64 := Nat.lt_of_le_of_lt Nat.and_le_right h
  calc x % 2 ^ 64 &&& m = x % 2 ^ 64 &&& m % 2 ^ 64 := by rw [Nat.mod_eq_of_lt h]
    _ = (x &&& m) % 2 ^ 64 := (Nat.and_mod_two_pow ..).symm
    _ = x &&& m := Nat.mod_eq_of_lt hle

theorem runs_putMasked {offset m : Nat} (order : ByteOrder) (n : Nat) (h : offset + maskWidth m ≤ b.length) (h0 : 0 < m)
    (h64 : m < 2 ^ 64) :
    Runs (putMasked offset m order n) b () ((Spec.mask offset m order).write (.uint n) b) := by
  have hw := maskWidth_le h64
  have hscratch : 0 + maskWidth m ≤ (zeros 8).length := by rw [length_zeros]; omega
  have hput := runs_putInteger order ((n <<< trailingZeros m) &&& m) hscratch hw
  rw [Spec.write]
  generalize hnew : order.write (maskWidth m) ((n <<< trailingZeros m) &&& m) = new at hput ⊢
  have hlength : new.length = maskWidth m := by rw [← hnew, ByteOrder.length_write]
  have hslice : (b.slice offset (maskWidth m)).length = new.length := (length_slice h).trans hlength.symm
  have hzip : (List.zipWith (· ||| ·) (b.slice offset (maskWidth m)) new).length = maskWidth m := by
    rw [List.length_zipWith, hslice, Nat.min_self, hlength]
  refine (runs_shiftLeft n (trailingZeros_lt h0 h64)).bind ?_
  rw [mod_and _ h64]
  refine (runs_scratch hput).bind ((runs_range h).bind (runs_each_overwrite id hzip h
    (fun i hi c hc => runs_update _ (by omega)) (fun i hi => hi) (fun i _ => rfl) fun i hi => ?_))
  -- the start of the scratch buffer
  have hbyte : ((zeros 8).overwrite 0 new).byteAt i = new.byteAt i := by
    rw [byteAt_overwrite (Nat.zero_le _), if_pos (by omega), Nat.sub_zero]
  rw [byteAt_zipWith_or hslice, byteAt_slice, if_pos hi, id, hbyte]

theorem runs_putBits {offset width : Nat} (n : Nat) (h : offset + width ≤ 8 * b.length) (h64 : width ≤ 64) :
    Runs (putBits offset width n) b () (b.writeBits offset width n) := by
  refine runs_each (fun i => b.writeBits offset i n) fun i hi => ?_
  have hbit : (n >>> i).testBit 0 = n.testBit i := by rw [Nat.testBit_shiftRight, Nat.add_zero]
  rw [writeBits_succ, ← hbit]
  refine (runs_shiftRight n (by omega)).bind (runs_update _ ?_)
  rw [length_writeBits]
  omega

/-- The numbers of the field are machine words, the end of the field among them. -/
def MachineSized : Spec → Prop
  | .mask offset m order => m < 2 ^ 64 ∧ reach (.mask offset m order) < 2 ^ 64
  | s => reach s < 2 ^ 64

instance : (s : Spec) → Decidable (MachineSized s)
  | .mask .. => instDecidableAnd
  | .bytes .. | .bits .. => Nat.decLt ..

theorem MachineSized.reach_lt {s : Spec} (h : MachineSized s) : reach s < 2 ^ 64 := by
  cases s with
  | mask _ _ _ => exact h.2
  | bytes _ _ _ | bits _ _ => exact h

/-- **One field**: a field that can be built stores each value that it takes, without a halt, in a buffer that has
it. -/
theorem runs_store {s : Spec} {v : Value} (hw : s.WellFormed) (hm : MachineSized s) (h : s.stop ≤ b.length)
    (ha : s.accepts v = true) : Runs (store s v) b () (s.write v b) := by
  cases s with
  | mask offset m order =>
    cases v with
    | uint n => exact runs_putMasked order n h hw hm.1
    | bytes _ | text _ => cases ha
  | bytes offset len transform =>
    cases v with
    | uint n =>
      have hlen : len ≤ 8 := by
        rcases hw with hnone | hlen
        · rw [Spec.accepts, hnone] at ha
          cases ha
        · exact hlen
      exact runs_putInteger _ n h hlen
    | bytes new => exact runs_putBytes new h
    | text t => exact runs_putBytes _ h
  | bits offset width =>
    simp only [Spec.stop] at h
    cases v with
    | uint n => exact runs_putBits n (by omega) hw.2
    | bytes _ | text _ => cases ha

/-! ## What a table stores -/

theorem run_checkField {s : Spec} (hm : MachineSized s) (name : String) (v : Value) (b : Bytes) :
    (checkField s name v).run.run b = ((s.check name v b.length).mapError Halt.refused, b) := by
  rw [checkField, if_neg (Nat.not_le.2 hm.reach_lt)]
  change ((match s.check name v b.length with
    | .ok () => return
    | .error e => throw (.refused e) : Work Unit).run.run b) = _
  cases s.check name v b.length with
  | ok _ => rfl
  | error e => rfl

/-- Checking changes nothing, and lists the writes that `Table.writes` lists. -/
theorem run_pending {t : Table ι} (hm : ∀ f ∈ t.fields, MachineSized f.2) (entries : List (ι × Value)) (b : Bytes) :
    (pending t entries).run.run b = ((t.writes b.length entries).mapError Halt.refused, b) := by
  induction entries with
  | nil => rfl
  | cons e entries ih =>
    obtain ⟨id, v⟩ := e
    rw [pending, Table.writes]
    cases hs : t.spec? id with
    | none => exact ih
    | some s =>
      have hcheck := run_checkField (hm _ (Table.mem_of_spec? hs)) (Named.name id) v b
      dsimp only
      cases hc : s.check (Named.name id) v b.length with
      | error e =>
        rw [hc] at hcheck
        exact run_bind_of_halt _ hcheck
      | ok u =>
        rw [hc] at hcheck
        rw [run_bind hcheck]
        cases hrest : t.writes b.length entries with
        | error e =>
          rw [hrest] at ih
          exact run_bind_of_halt _ ih
        | ok ws =>
          rw [hrest] at ih
          exact run_bind ih

theorem runs_storeAll {ws : List (Spec × Value)} (hw : ∀ w ∈ ws, w.1.WellFormed ∧ MachineSized w.1)
    (h : ∀ w ∈ ws, w.1.stop ≤ b.length ∧ w.1.accepts w.2 = true) : Runs (storeAll ws) b () (writeAll ws b) := by
  induction ws generalizing b with
  | nil => rfl
  | cons w ws ih =>
    obtain ⟨⟨hwell, hsized⟩, hws⟩ := List.forall_mem_cons.1 hw
    obtain ⟨⟨hstop, haccepts⟩, hrest⟩ := List.forall_mem_cons.1 h
    refine (runs_store hwell hsized hstop haccepts).bind (ih hws fun x hx => ?_)
    rw [Spec.length_write _ hstop]
    exact hrest x hx

/-- **All of a table**: encoding in place ends as `Table.encode` does. It halts only where a value is refused, and then
the buffer is as it was. -/
theorem run_encode {t : Table ι} (ht : ∀ f ∈ t.fields, f.2.WellFormed ∧ MachineSized f.2) (values : Values ι)
    (b : Bytes) :
    (encode t values).run.run b = match t.encode values b with
      | .ok c => (.ok (), c)
      | .error e => (.error (.refused e), b) := by
  have hpending := run_pending (fun f hf => (ht f hf).2) values.entries b
  rw [encode, Table.encode]
  cases hwrites : t.writes b.length values.entries with
  | error e =>
    rw [hwrites] at hpending
    exact run_bind_of_halt _ hpending
  | ok ws =>
    rw [hwrites] at hpending
    obtain ⟨hchecks, rfl⟩ := Table.writes_eq_ok_iff.1 hwrites
    rw [run_bind hpending]
    refine runs_storeAll (fun w hw => ?_) fun w hw => ?_
    · obtain ⟨id, -, hs⟩ := Table.mem_located.1 hw
      exact ht (id, w.1) (Table.mem_of_spec? hs)
    · obtain ⟨id, hid, hs⟩ := Table.mem_located.1 hw
      obtain ⟨hstop, haccepts, -⟩ := Spec.check_eq_ok_iff.1 (hchecks (id, w.2) hid w.1 hs)
      exact ⟨hstop, haccepts⟩

end InPlace

end StorageCommands.Layout
