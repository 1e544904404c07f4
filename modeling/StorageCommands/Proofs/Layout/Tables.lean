import Mathlib.Data.List.Nodup
import StorageCommands.Proofs.Layout.Footprint

/-!
# What tables do to a buffer

- Decoding a buffer that holds every field reads each of them (`decode_eq_ok`).
- Encoding checks all values first (`check_eq_ok_iff` says what one check wants). If they pass, it makes the writes of
  the entries whose fields the table has (`located`), one after the other (`writeAll`): `encode_eq_ok_iff`.
- A run of writes changes only bits that one of them covers (`bitAt_writeAll_of_not_covers`), and writes of canonical
  values to disjoint fields of zeros are all read back (`read_writeAll`).
-/

namespace StorageCommands.Layout

open Bytes

/-! ## Checks -/

/-- A sequence succeeds if its parts do. -/
theorem bind_eq_ok {α β ε : Type} {x : Except ε α} {f : α → Except ε β} {b : β} :
    (x >>= f) = .ok b ↔ ∃ a, x = .ok a ∧ f a = .ok b := by
  cases x with
  | error e => simp [bind, Except.bind]
  | ok a => simp [bind, Except.bind]

/-- A mapping that never fails maps. -/
theorem mapM_eq_ok {α β ε : Type} {f : α → Except ε β} {g : α → β} :
    ∀ {l : List α}, (∀ a ∈ l, f a = .ok (g a)) → l.mapM f = .ok (l.map g)
  | [], _ => rfl
  | a :: l, h => by
    rw [List.mapM_cons, h a List.mem_cons_self, mapM_eq_ok fun x hx => h x (List.mem_cons_of_mem _ hx)]
    rfl

/-- A mapping that succeeds does so for every member. -/
theorem mapM_mem_ok {α β ε : Type} {f : α → Except ε β} {l : List α} {bs : List β} (h : l.mapM f = .ok bs) {a : α}
    (ha : a ∈ l) : ∃ b, f a = .ok b := by
  induction l generalizing bs with
  | nil => cases ha
  | cons x l ih =>
    rw [List.mapM_cons] at h
    obtain ⟨b, hb, hrest⟩ := bind_eq_ok.1 h
    obtain ⟨bs', hbs, -⟩ := bind_eq_ok.1 hrest
    rcases List.mem_cons.1 ha with rfl | ha
    · exact ⟨b, hb⟩
    · exact ih hbs ha

namespace Spec

/-- A check passes if the buffer has the field, the field takes values of the kind, and an integer is not too large. -/
theorem check_eq_ok_iff {s : Spec} {name : String} {v : Value} {len : Nat} :
    s.check name v len = .ok () ↔
      s.stop ≤ len ∧ s.accepts v = true ∧ ∀ n ∈ v.uint?, ∀ max ∈ s.maxValue, n ≤ max := by
  unfold check checkBounds
  by_cases hl : len < s.stop
  · simp only [hl, if_true]
    constructor
    · intro h; cases h
    · intro h; omega
  · have hs : s.stop ≤ len := by omega
    cases ha : s.accepts v with
    | false =>
      simp only [hl, if_false, Bool.false_eq_true]
      constructor
      · intro h; cases h
      · intro h; cases h.2.1
    | true =>
      cases hv : v.uint? with
      | none => simp [hl, hs, bind, Except.bind, pure, Except.pure]
      | some n =>
        cases hm : s.maxValue with
        | none => simp [hl, hs, bind, Except.bind, pure, Except.pure]
        | some max =>
          by_cases hn : max < n
          · simp [hl, hn, bind, Except.bind, throw, throwThe, MonadExceptOf.throw]
          · simp [hl, hs, hn, Nat.le_of_not_lt hn, bind, Except.bind, pure, Except.pure]

/-- An integer that is too large does not pass. -/
theorem check_eq_error {s : Spec} {name : String} {n len max : Nat} (hl : s.stop ≤ len)
    (ha : s.accepts (.uint n) = true) (hmax : s.maxValue = some max) (hn : max < n) :
    s.check name (.uint n) len = .error (.valueTooLarge name n max) := by
  simp [check, checkBounds, Nat.not_lt.2 hl, ha, Value.uint?, hmax, hn, bind, Except.bind, throw, throwThe,
    MonadExceptOf.throw]

/-- An integer that fits under a mask is not too large for it. -/
theorem le_of_shiftLeft_and {m n : Nat} (h : (n <<< trailingZeros m) &&& m = n <<< trailingZeros m) :
    n ≤ m >>> trailingZeros m := by
  have hm : n <<< trailingZeros m ≤ m := by rw [← h]; exact Nat.and_le_right
  calc n = (n <<< trailingZeros m) >>> trailingZeros m := (Nat.shiftLeft_shiftRight n _).symm
    _ ≤ m >>> trailingZeros m := by
      rw [Nat.shiftRight_eq_div_pow, Nat.shiftRight_eq_div_pow]
      exact Nat.div_le_div_right hm

/-- Canonical values pass the check. -/
theorem Canonical.check {s : Spec} {v : Value} (hv : s.Canonical v) {len : Nat} (h : s.stop ≤ len) (name : String) :
    s.check name v len = .ok () := by
  rw [check_eq_ok_iff]
  refine ⟨h, ?_⟩
  cases s with
  | mask offset m order =>
    cases v with
    | uint n => exact ⟨rfl, fun _ hn _ hmax => by cases hn; cases hmax; exact le_of_shiftLeft_and hv⟩
    | bytes _ | text _ => exact hv.elim
  | bytes offset len transform =>
    cases v with
    | uint n =>
      cases transform with
      | raw | text => exact hv.elim
      | littleEndian | bigEndian => exact ⟨rfl, fun _ hn _ hmax => by cases hn; cases hmax; exact hv⟩
    | bytes _ => exact ⟨rfl, fun _ hn => by cases hn⟩
    | text _ =>
      cases transform with
      | raw | littleEndian | bigEndian => exact hv.elim
      | text => exact ⟨rfl, fun _ hn => by cases hn⟩
  | bits offset width =>
    cases v with
    | uint n => exact ⟨rfl, fun _ hn _ hmax => by cases hn; cases hmax; exact hv⟩
    | bytes _ | text _ => exact hv.elim

end Spec

/-! ## Runs of writes -/

/-- Writes, one after the other. -/
def writeAll (ws : List (Spec × Value)) (b : Bytes) : Bytes := ws.foldl (fun b (s, v) => s.write v b) b

@[simp] theorem writeAll_nil (b : Bytes) : writeAll [] b = b := rfl

@[simp] theorem writeAll_cons (w : Spec × Value) (ws : List (Spec × Value)) (b : Bytes) :
    writeAll (w :: ws) b = writeAll ws (w.1.write w.2 b) := rfl

theorem length_writeAll {ws : List (Spec × Value)} {b : Bytes} (h : ∀ w ∈ ws, w.1.stop ≤ b.length) :
    (writeAll ws b).length = b.length := by
  induction ws generalizing b with
  | nil => rfl
  | cons w ws ih =>
    have hw := Spec.length_write w.2 (h w List.mem_cons_self)
    rw [writeAll_cons, ih fun x hx => by rw [hw]; exact h x (List.mem_cons_of_mem _ hx), hw]

/-- Writes change no bit that none of them covers. -/
theorem bitAt_writeAll_of_not_covers {ws : List (Spec × Value)} {b : Bytes} {pos : Nat}
    (h : ∀ w ∈ ws, w.1.stop ≤ b.length) (hp : ∀ w ∈ ws, w.1.covers pos = false) :
    (writeAll ws b).bitAt pos = b.bitAt pos := by
  induction ws generalizing b with
  | nil => rfl
  | cons w ws ih =>
    have hw := Spec.length_write w.2 (h w List.mem_cons_self)
    rw [writeAll_cons, ih (fun x hx => by rw [hw]; exact h x (List.mem_cons_of_mem _ hx))
      fun x hx => hp x (List.mem_cons_of_mem _ hx)]
    exact Spec.bitAt_write_of_not_covers w.2 (h w List.mem_cons_self) (hp w List.mem_cons_self)

/-- **Canonical values written to disjoint fields of zeros are all read back.** -/
theorem read_writeAll {ws : List (Spec × Value)} {b : Bytes} (h : ∀ w ∈ ws, w.1.stop ≤ b.length)
    (hc : ∀ w ∈ ws, w.1.Canonical w.2) (hd : ws.Pairwise fun w x => w.1.Disjoint x.1)
    (hz : ∀ w ∈ ws, ∀ pos, w.1.covers pos = true → b.bitAt pos = false) :
    ∀ w ∈ ws, w.1.read (writeAll ws b) = w.2 := by
  induction ws generalizing b with
  | nil => simp
  | cons w ws ih =>
    have hw := h w List.mem_cons_self
    have hl := Spec.length_write w.2 hw
    rw [List.pairwise_cons] at hd
    have hrest : ∀ x ∈ ws, x.1.stop ≤ (w.1.write w.2 b).length := fun x hx => by
      rw [hl]; exact h x (List.mem_cons_of_mem _ hx)
    intro x hx
    rw [writeAll_cons]
    rcases List.mem_cons.1 hx with rfl | hx
    · -- the other writes leave the bits of the first one alone
      have hsame : ∀ pos, x.1.covers pos = true →
          (writeAll ws (x.1.write x.2 b)).bitAt pos = (x.1.write x.2 b).bitAt pos := fun pos hp =>
        bitAt_writeAll_of_not_covers hrest fun y hy => hd.1 y hy pos hp
      rw [Spec.read_congr (by rw [length_writeAll hrest, hl]; exact hw) (by rw [hl]; exact hw) hsame]
      exact Spec.read_write hw (hc x List.mem_cons_self) (hz x List.mem_cons_self)
    · -- the first write leaves the zeros of the others alone
      refine ih hrest (fun y hy => hc y (List.mem_cons_of_mem _ hy)) hd.2 (fun y hy pos hp => ?_) x hx
      rw [Spec.bitAt_write_of_not_covers w.2 hw ((hd.1 y hy).symm pos hp)]
      exact hz y (List.mem_cons_of_mem _ hy) pos hp

/-! ## Tables -/

namespace Table

variable {ι : Type}

theorem le_foldl_max (fields : List (ι × Spec)) (n : Nat) :
    n ≤ fields.foldl (fun len f => max len f.2.stop) n
      ∧ ∀ f ∈ fields, f.2.stop ≤ fields.foldl (fun len f => max len f.2.stop) n := by
  induction fields generalizing n with
  | nil => simp
  | cons f fields ih =>
    obtain ⟨h1, h2⟩ := ih (max n f.2.stop)
    rw [List.foldl_cons]
    refine ⟨by omega, fun g hg => ?_⟩
    rcases List.mem_cons.1 hg with rfl | hg
    · omega
    · exact h2 g hg

/-- A buffer of the shortest length holds every field. -/
theorem stop_le_minLength {t : Table ι} {f : ι × Spec} (h : f ∈ t.fields) : f.2.stop ≤ t.minLength :=
  (le_foldl_max t.fields 0).2 f h

/-- Decoding a buffer that holds every field reads each of them. -/
theorem decode_eq_ok [Named ι] {t : Table ι} {b : Bytes} (h : t.minLength ≤ b.length) :
    t.decode b = .ok ⟨t.fields.map fun f => (f.1, f.2.read b)⟩ := by
  have hread : ∀ f ∈ t.fields, f.2.decode (Named.name f.1) b = .ok (f.2.read b) := by
    intro f hf
    have hs : ¬b.length < f.2.stop := Nat.not_lt.2 (Nat.le_trans (stop_le_minLength hf) h)
    simp [Spec.decode, Spec.checkBounds, hs, bind, Except.bind, pure, Except.pure]
  rw [decode, mapM_eq_ok (g := fun f => (f.1, f.2.read b))]
  · rfl
  · intro f hf
    simp only [hread f hf]
    rfl

/-- A buffer that can be decoded holds every field. -/
theorem stop_le_of_decode [Named ι] {t : Table ι} {b : Bytes} {v : Values ι} (h : t.decode b = .ok v) {f : ι × Spec}
    (hf : f ∈ t.fields) : f.2.stop ≤ b.length := by
  obtain ⟨entries, hentries, -⟩ := bind_eq_ok.1 h
  obtain ⟨e, he⟩ := mapM_mem_ok hentries hf
  obtain ⟨w, hw, -⟩ := bind_eq_ok.1 he
  obtain ⟨_, hbounds, -⟩ := bind_eq_ok.1 hw
  unfold Spec.checkBounds at hbounds
  split at hbounds
  · cases hbounds
  · omega

/-- Decoding looks only at the bytes that the table needs. -/
theorem decode_take [Named ι] {t : Table ι} {n : Nat} (h : t.minLength ≤ n) (b : Bytes) :
    t.decode (b.take n) = t.decode b := by
  by_cases hn : b.length ≤ n
  · rw [List.take_of_length_le hn]
  · have hle : n ≤ b.length := Nat.le_of_not_le hn
    have htake : n ≤ (b.take n).length := Nat.le_of_eq (List.length_take_of_le hle).symm
    rw [decode_eq_ok (Nat.le_trans h htake), decode_eq_ok (Nat.le_trans h hle)]
    refine congrArg (fun entries => Except.ok (Values.mk entries)) (List.map_congr_left fun f hf => ?_)
    have hstop : f.2.stop ≤ n := Nat.le_trans (stop_le_minLength hf) h
    refine Prod.ext rfl (Spec.read_congr (Nat.le_trans hstop htake) (Nat.le_trans hstop hle) fun pos hp => ?_)
    have hpos := (Spec.covers_bounds hp).2
    rw [show b.take n = b.slice 0 n from rfl, bitAt_slice, if_pos (by omega), Nat.mul_zero, Nat.zero_add]

variable [DecidableEq ι]

theorem mem_of_spec? {t : Table ι} {id : ι} {s : Spec} (h : t.spec? id = some s) : (id, s) ∈ t.fields := by
  obtain ⟨⟨k, s'⟩, hf, rfl⟩ := Option.map_eq_some_iff.1 h
  have hk : k = id := by simpa using List.find?_some hf
  exact hk ▸ List.mem_of_find?_eq_some hf

/-- A table that lists no field twice finds each at its entry. -/
theorem spec?_of_mem {t : Table ι} (ht : (t.fields.map Prod.fst).Nodup) {f : ι × Spec} (h : f ∈ t.fields) :
    t.spec? f.1 = some f.2 := by
  cases hs : t.spec? f.1 with
  | none =>
    have := List.find?_eq_none.1 (Option.map_eq_none_iff.1 hs) f h
    simp at this
  | some s =>
    have he : (f.1, s) = f := List.inj_on_of_nodup_map ht (mem_of_spec? hs) h rfl
    rw [← he]

/-- The writes of the entries whose fields the table has. -/
def located (t : Table ι) (entries : List (ι × Value)) : List (Spec × Value) :=
  entries.filterMap fun e => (t.spec? e.1).map fun s => (s, e.2)

theorem mem_located {t : Table ι} {entries : List (ι × Value)} {w : Spec × Value} :
    w ∈ t.located entries ↔ ∃ id, (id, w.2) ∈ entries ∧ t.spec? id = some w.1 := by
  simp only [located, List.mem_filterMap, Option.map_eq_some_iff]
  constructor
  · rintro ⟨⟨id, v⟩, he, s, hs, rfl⟩
    exact ⟨id, he, hs⟩
  · rintro ⟨id, he, hs⟩
    exact ⟨(id, w.2), he, w.1, hs, rfl⟩

variable [Named ι]

/-- The writes are those of the entries whose fields the table has, if all their checks pass. -/
theorem writes_eq_ok_iff {t : Table ι} {len : Nat} {entries : List (ι × Value)} {ws : List (Spec × Value)} :
    t.writes len entries = .ok ws ↔
      (∀ e ∈ entries, ∀ s ∈ t.spec? e.1, s.check (Named.name e.1) e.2 len = .ok ()) ∧ ws = t.located entries := by
  induction entries generalizing ws with
  | nil => simp [writes, located, eq_comm]
  | cons e entries ih =>
    obtain ⟨id, v⟩ := e
    rw [List.forall_mem_cons, writes, located, List.filterMap_cons]
    cases hs : t.spec? id with
    | none => simp [ih, located]
    | some s =>
      simp only [bind_eq_ok, ih, Option.mem_def, Option.some.injEq, forall_eq', Option.map_some]
      constructor
      · rintro ⟨_, hc, rest, ⟨hall, rfl⟩, hw⟩
        exact ⟨⟨hc, hall⟩, (Except.ok.inj hw).symm⟩
      · rintro ⟨⟨hc, hall⟩, rfl⟩
        exact ⟨(), hc, _, ⟨hall, rfl⟩, rfl⟩

/-- **Encoding makes the writes of the values whose fields the table has**, if all their checks pass. -/
theorem encode_eq_ok_iff {t : Table ι} {values : Values ι} {b c : Bytes} :
    t.encode values b = .ok c ↔
      (∀ e ∈ values.entries, ∀ s ∈ t.spec? e.1, s.check (Named.name e.1) e.2 b.length = .ok ())
        ∧ c = writeAll (t.located values.entries) b := by
  rw [encode, bind_eq_ok]
  constructor
  · rintro ⟨ws, hw, hc⟩
    obtain ⟨hall, rfl⟩ := writes_eq_ok_iff.1 hw
    exact ⟨hall, (Except.ok.inj hc).symm⟩
  · rintro ⟨hall, rfl⟩
    exact ⟨_, writes_eq_ok_iff.2 ⟨hall, rfl⟩, rfl⟩

/-- The first value that does not pass its check says why nothing is stored. -/
theorem encode_eq_error_of_check {t : Table ι} (before : List (ι × Value)) {after : List (ι × Value)} {id : ι}
    {v : Value} {s : Spec} {b : Bytes} {e : Error}
    (hbefore : ∀ x ∈ before, ∀ s ∈ t.spec? x.1, s.check (Named.name x.1) x.2 b.length = .ok ())
    (hs : t.spec? id = some s) (he : s.check (Named.name id) v b.length = .error e) :
    t.encode ⟨before ++ (id, v) :: after⟩ b = .error e := by
  have hwrites : t.writes b.length (before ++ (id, v) :: after) = .error e := by
    induction before with
    | nil => simp only [List.nil_append, writes, hs, he, bind, Except.bind]
    | cons x before ih =>
      obtain ⟨hx, hrest⟩ := List.forall_mem_cons.1 hbefore
      rw [List.cons_append, writes]
      cases hspec : t.spec? x.1 with
      | none => exact ih hrest
      | some s' => simp only [hx s' hspec, ih hrest, bind, Except.bind]
  simp only [encode, hwrites, bind, Except.bind]

end Table

end StorageCommands.Layout
