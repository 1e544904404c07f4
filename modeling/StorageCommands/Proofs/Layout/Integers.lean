import StorageCommands.Proofs.Layout.RoundTrip

/-!
# Integer fields

A field is `Plain` if it holds every integer up to its largest one: a mask without holes, an integer range, a bit
range. In such a field the check that encoding makes is all that a value needs to be given back (`Plain.canonical`),
and what encoding integers leaves behind is read off the values (`read_of_encode_uint`, `decode_encode_uint`).

The integer that a field holds says all about the bits that it covers (`bitAt_eq_of_read_eq`). For bytes and for pairs
of bytes it is written out (`read_byte`, `read_pair`).
-/

namespace StorageCommands.Layout

open Bytes

/-- The low zeros of a mask are zero. -/
theorem trailingZeros_le {m i : Nat} (h : m.testBit i = true) : trailingZeros m ≤ i := by
  induction m using trailingZeros.induct generalizing i with
  | case1 m hm =>
    rw [trailingZeros, if_pos hm]
    omega
  | case2 m hm ih =>
    rw [trailingZeros, if_neg hm]
    cases i with
    | zero =>
      rw [Nat.testBit_zero] at h
      simp only [decide_eq_true_eq] at h
      omega
    | succ i =>
      rw [Nat.testBit_succ] at h
      have := ih h
      omega

theorem trailingZeros_ones {k : Nat} (h : 0 < k) : trailingZeros (2 ^ k - 1) = 0 := by
  have hbit : (2 ^ k - 1).testBit 0 = true := by
    rw [Nat.testBit_two_pow_sub_one]
    exact decide_eq_true h
  exact Nat.le_zero.1 (trailingZeros_le hbit)

/-- The low zeros of ones that are shifted are those that the shift puts there. -/
theorem trailingZeros_ones_shiftLeft {n : Nat} (h : 0 < n) (k : Nat) : trailingZeros ((2 ^ n - 1) <<< k) = k := by
  induction k with
  | zero => rw [Nat.shiftLeft_zero, trailingZeros_ones h]
  | succ k ih =>
    have hone : 1 < 2 ^ n := Nat.one_lt_two_pow (by omega)
    have hpos : 0 < (2 ^ n - 1) <<< k := by
      rw [Nat.shiftLeft_eq]
      exact Nat.mul_pos (by omega) (Nat.two_pow_pos k)
    have heven : ¬ (2 * (2 ^ n - 1) <<< k = 0 ∨ 2 * (2 ^ n - 1) <<< k % 2 = 1) := by omega
    rw [Nat.shiftLeft_succ, trailingZeros, if_neg heven, Nat.mul_div_cancel_left _ (by decide), ih]

namespace Spec

/-- The field holds every integer up to its largest one. -/
def Plain : Spec → Prop
  | mask _ m _ => widthMax (bitLength (m >>> trailingZeros m)) <<< trailingZeros m = m
  | bytes _ _ transform => transform.order?.isSome = true
  | bits .. => True

instance : (s : Spec) → Decidable s.Plain
  | mask .. => Nat.decEq ..
  | bytes _ _ transform => Bool.decEq transform.order?.isSome true
  | bits .. => isTrue trivial

theorem Plain.accepts {s : Spec} (hs : s.Plain) (n : Nat) : s.accepts (.uint n) = true := by
  cases s with
  | mask _ _ _ | bits _ _ => rfl
  | bytes _ _ transform => exact hs

/-- An integer passes the check of a plain field if it is not too large. -/
theorem Plain.check_iff {s : Spec} (hs : s.Plain) {name : String} {n len : Nat} (hl : s.stop ≤ len) :
    s.check name (.uint n) len = .ok () ↔ ∀ max ∈ s.maxValue, n ≤ max := by
  rw [check_eq_ok_iff]
  constructor
  · intro h
    exact h.2.2 n rfl
  · intro h
    exact ⟨hl, hs.accepts n, fun k hk => by cases hk; exact h⟩

/-- A shifted integer lies under a mask of ones. -/
theorem shiftLeft_and_widthMax {n w k : Nat} (h : n ≤ widthMax w) :
    (n <<< k) &&& (widthMax w <<< k) = n <<< k := by
  rw [← Nat.shiftLeft_and_distrib, widthMax, Nat.one_shiftLeft, Nat.and_two_pow_sub_one_eq_mod,
    Nat.mod_eq_of_lt (lt_of_le_widthMax h)]

/-- **The check is all that an integer needs** to be given back by a plain field. -/
theorem Plain.canonical {s : Spec} (hs : s.Plain) {name : String} {n len : Nat}
    (h : s.check name (.uint n) len = .ok ()) : s.Canonical (.uint n) := by
  obtain ⟨-, ha, hmax⟩ := check_eq_ok_iff.1 h
  cases s with
  | mask offset m order =>
    have hn : n ≤ m >>> trailingZeros m := hmax n rfl _ rfl
    simp only [Plain] at hs
    have hw := Nat.shiftLeft_shiftRight (widthMax (bitLength (m >>> trailingZeros m))) (trailingZeros m)
    rw [hs] at hw
    have hfit := shiftLeft_and_widthMax (k := trailingZeros m) (le_of_le_of_eq hn hw)
    rw [hs] at hfit
    exact hfit
  | bytes offset len transform =>
    cases transform with
    | raw | text => cases ha
    | littleEndian | bigEndian => exact hmax n rfl _ rfl
  | bits offset width => exact hmax n rfl _ rfl

/-- Every bit that a plain field covers is one of the integer's. -/
theorem Plain.exists_testBit {s : Spec} (hs : s.Plain) {pos : Nat} (hp : s.covers pos = true) :
    ∃ i, ∀ b : Bytes, s.stop ≤ b.length → ∃ n, s.read b = .uint n ∧ n.testBit i = b.bitAt pos := by
  cases s with
  | mask offset m order =>
    simp only [covers, Bool.and_eq_true, decide_eq_true_eq] at hp
    obtain ⟨hp, hm⟩ := hp
    refine ⟨order.position (maskWidth m) (pos - 8 * offset) - trailingZeros m, fun b hb => ⟨_, rfl, ?_⟩⟩
    rw [Nat.testBit_shiftRight, Nat.add_sub_cancel' (trailingZeros_le hm), testBit_masked order hb, hm, Bool.and_true,
      order.position_position (by omega)]
    congr 1
    omega
  | bytes offset len transform =>
    simp only [covers, decide_eq_true_eq] at hp
    obtain ⟨order, ho⟩ := Option.isSome_iff_exists.1 hs
    refine ⟨order.position len (pos - 8 * offset), fun b hb => ⟨order.read (b.slice offset len), ?_, ?_⟩⟩
    · cases transform with
      | raw | text => cases ho
      | littleEndian | bigEndian => cases ho; rfl
    · simp only [stop] at hb
      rw [order.testBit_read, length_slice hb, decide_eq_true (order.position_lt (by omega)), Bool.true_and,
        order.position_position (by omega), bitAt_slice, if_pos (by omega)]
      congr 1
      omega
  | bits offset width =>
    simp only [covers, decide_eq_true_eq] at hp
    refine ⟨pos - offset, fun b _ => ⟨_, rfl, ?_⟩⟩
    rw [testBit_readBits, decide_eq_true (by omega), Bool.true_and]
    congr 1
    omega

/-- Buffers in which a plain field reads the same have the same bits there. -/
theorem bitAt_eq_of_read_eq {s : Spec} (hs : s.Plain) {b c : Bytes} (hb : s.stop ≤ b.length) (hc : s.stop ≤ c.length)
    (h : s.read b = s.read c) {pos : Nat} (hp : s.covers pos = true) : b.bitAt pos = c.bitAt pos := by
  obtain ⟨i, hi⟩ := hs.exists_testBit hp
  obtain ⟨n, hn, hni⟩ := hi b hb
  obtain ⟨k, hk, hki⟩ := hi c hc
  have hnk : n = k := Value.uint.inj (hn.symm.trans (h.trans hk))
  rw [← hni, ← hki, hnk]

/-- Among zeros a plain field holds zero. -/
theorem Plain.read_zeros {s : Spec} (hs : s.Plain) {n : Nat} (h : s.stop ≤ n) : s.read (zeros n) = .uint 0 := by
  have hl : s.stop ≤ (zeros n).length := by rw [length_zeros]; exact h
  cases s with
  | mask offset m order =>
    have hr : order.read ((zeros n).slice offset (maskWidth m)) &&& m = 0 := by
      apply Nat.eq_of_testBit_eq
      intro i
      rw [testBit_masked order hl, bitAt_zeros, Bool.false_and, Nat.zero_testBit]
    rw [read, hr, Nat.zero_shiftRight]
  | bytes offset len transform =>
    have hr : ∀ order : ByteOrder, order.read ((zeros n).slice offset len) = 0 := by
      intro order
      apply Nat.eq_of_testBit_eq
      intro i
      rw [order.testBit_read, bitAt_slice, bitAt_zeros, ite_self, Bool.and_false, Nat.zero_testBit]
    cases transform with
    | raw | text => cases hs
    | littleEndian | bigEndian => exact congrArg Value.uint (hr _)
  | bits offset width =>
    have hr : (zeros n).readBits offset width = 0 := by
      apply Nat.eq_of_testBit_eq
      intro i
      rw [testBit_readBits, bitAt_zeros, Bool.and_false, Nat.zero_testBit]
    rw [read, hr]

/-- A byte. -/
theorem read_byte {offset : Nat} {b : Bytes} (h : offset < b.length) :
    (bytes offset 1 .littleEndian).read b = .uint (b.byteAt offset).toNat := by
  have hs : b.slice offset 1 = [b.byteAt offset] := by
    rw [slice, List.drop_eq_getElem_cons h, byteAt_eq_getElem h]
    rfl
  simp [read, hs, ByteOrder.read, littleEndian]

/-- A pair of bytes, the higher one first. -/
theorem read_pair {offset : Nat} {b : Bytes} (h : offset + 1 < b.length) :
    (mask offset 0xffff .big).read b = .uint (256 * (b.byteAt offset).toNat + (b.byteAt (offset + 1)).toNat) := by
  have hw : maskWidth 0xffff = 2 := by decide
  have hz : trailingZeros 0xffff = 0 := by rw [trailingZeros]; rfl
  have hs : b.slice offset 2 = [b.byteAt offset, b.byteAt (offset + 1)] := by
    rw [slice, List.drop_eq_getElem_cons (by omega), List.drop_eq_getElem_cons h, byteAt_eq_getElem (by omega),
      byteAt_eq_getElem h]
    rfl
  have hlt : 256 * (b.byteAt offset).toNat + (b.byteAt (offset + 1)).toNat < 2 ^ 16 := by
    have := (b.byteAt offset).toNat_lt
    have := (b.byteAt (offset + 1)).toNat_lt
    omega
  rw [read, hw, hz, hs, Nat.shiftRight_zero, show (0xffff : Nat) = 2 ^ 16 - 1 from rfl, Nat.and_two_pow_sub_one_eq_mod,
    Nat.mod_eq_of_lt (by simpa [ByteOrder.read, bigEndian] using hlt)]
  simp [ByteOrder.read, bigEndian]

end Spec

namespace Table

variable {ι : Type} [DecidableEq ι] [Named ι]

/-- Integers are stored if none is too large for its field. -/
theorem encode_uint_isOk_iff {t : Table ι} (hp : ∀ f ∈ t.fields, f.2.Plain) {n : Nat} (hn : t.minLength ≤ n)
    {values : Values ι} (hu : ∀ e ∈ values.entries, ∃ k, e.2 = .uint k) :
    (∃ b, t.encode values (zeros n) = .ok b) ↔
      ∀ e ∈ values.entries, ∀ s ∈ t.spec? e.1, ∀ k, e.2 = .uint k → ∀ max ∈ s.maxValue, k ≤ max := by
  have hcheck : ∀ e ∈ values.entries, ∀ s ∈ t.spec? e.1,
      (s.check (Named.name e.1) e.2 (zeros n).length = .ok () ↔
        ∀ k, e.2 = .uint k → ∀ max ∈ s.maxValue, k ≤ max) := by
    intro e he s hs
    obtain ⟨k, hk⟩ := hu e he
    have hf := mem_of_spec? hs
    rw [hk, length_zeros, (hp _ hf).check_iff (Nat.le_trans (stop_le_minLength hf) hn)]
    constructor
    · rintro h k' ⟨rfl⟩
      exact h
    · intro h
      exact h k rfl
  simp only [encode_eq_ok_iff, exists_and_left, exists_eq, and_true]
  exact forall₂_congr fun e he => forall₂_congr fun s hs => hcheck e he s hs

/-- The first integer that is too large for its field says why nothing is stored. -/
theorem encode_uint_eq_error {t : Table ι} (hp : ∀ f ∈ t.fields, f.2.Plain) {n : Nat} (hn : t.minLength ≤ n)
    (before : List (ι × Value)) {after : List (ι × Value)} {id : ι} {k max : Nat} {s : Spec}
    (hbefore : ∀ e ∈ before, ∃ k, e.2 = .uint k ∧ ∀ s ∈ t.spec? e.1, ∀ max ∈ s.maxValue, k ≤ max)
    (hs : t.spec? id = some s) (hmax : s.maxValue = some max) (hk : max < k) :
    t.encode ⟨before ++ (id, .uint k) :: after⟩ (zeros n) = .error (.valueTooLarge (Named.name id) k max) := by
  have hstop {id : ι} {s : Spec} (hs : t.spec? id = some s) : s.stop ≤ (zeros n).length := by
    rw [length_zeros]
    exact Nat.le_trans (stop_le_minLength (mem_of_spec? hs)) hn
  refine encode_eq_error_of_check before (fun e he s' hs' => ?_) hs
    (Spec.check_eq_error (hstop hs) ((hp _ (mem_of_spec? hs)).accepts k) hmax hk)
  obtain ⟨k', hk', hle⟩ := hbefore e he
  rw [hk', (hp _ (mem_of_spec? hs')).check_iff (hstop hs')]
  exact hle s' hs'

/-- **What encoding integers into zeros leaves behind**: every plain field that was given one reads it. -/
theorem Separated.read_of_encode_uint {t : Table ι} (ht : t.Separated) (hp : ∀ f ∈ t.fields, f.2.Plain)
    {values : Values ι} {n : Nat} {b : Bytes} (hn : (values.entries.map Prod.fst).Nodup)
    (hu : ∀ e ∈ values.entries, ∃ k, e.2 = .uint k) (hb : t.encode values (zeros n) = .ok b)
    {e : ι × Value} (he : e ∈ values.entries) {s : Spec} (hs : t.spec? e.1 = some s) : s.read b = e.2 := by
  refine ht.read_of_encode hn (fun e he s hs => ?_) hb he hs
  obtain ⟨k, hk⟩ := hu e he
  have hcheck := (encode_eq_ok_iff.1 hb).1 e he s hs
  rw [hk] at hcheck ⊢
  exact (hp (e.1, s) (mem_of_spec? hs)).canonical hcheck

/-- A plain field that was given no integer reads zero. -/
theorem Separated.read_of_encode_uint_of_not_mem {t : Table ι} (ht : t.Separated) (hp : ∀ f ∈ t.fields, f.2.Plain)
    {values : Values ι} {n : Nat} {b : Bytes} (hb : t.encode values (zeros n) = .ok b) {f : ι × Spec}
    (hf : f ∈ t.fields) (hl : f.2.stop ≤ n) (hno : f.1 ∉ values.entries.map Prod.fst) : f.2.read b = .uint 0 := by
  have hz : f.2.stop ≤ (zeros n).length := by rw [length_zeros]; exact hl
  have hlength := length_of_encode hb
  obtain ⟨hchecks, rfl⟩ := encode_eq_ok_iff.1 hb
  have hsame : ∀ pos, f.2.covers pos = true →
      (writeAll (t.located values.entries) (zeros n)).bitAt pos = (zeros n).bitAt pos := by
    intro pos hcovers
    refine bitAt_writeAll_of_not_covers (fun w hw => ?_) fun w hw => ?_
    · obtain ⟨id, hid, hs⟩ := mem_located.1 hw
      exact (Spec.check_eq_ok_iff.1 (hchecks (id, w.2) hid w.1 hs)).1
    · obtain ⟨id, hid, hs⟩ := mem_located.1 hw
      have hne : f.1 ≠ id := fun he => hno (List.mem_map.2 ⟨(id, w.2), hid, he.symm⟩)
      exact ht.disjoint_of_ne hf (mem_of_spec? hs) hne pos hcovers
  rw [Spec.read_congr (by rw [hlength]; exact hz) hz hsame]
  exact (hp f hf).read_zeros hl

/-- **Integers encoded into zeros**, decoded: every field holds the one that it was given, or zero. -/
theorem Separated.decode_encode_uint {t : Table ι} (ht : t.Separated) (hp : ∀ f ∈ t.fields, f.2.Plain)
    {values : Values ι} {n : Nat} {b : Bytes} (hm : t.minLength ≤ n) (hn : (values.entries.map Prod.fst).Nodup)
    (hu : ∀ e ∈ values.entries, ∃ k, e.2 = .uint k) (hb : t.encode values (zeros n) = .ok b) :
    ∃ decoded, t.decode b = .ok decoded ∧ ∀ f ∈ t.fields, decoded.uint f.1 = values.uint f.1 := by
  have hl : t.minLength ≤ b.length := by rw [length_of_encode hb, length_zeros]; exact hm
  refine ⟨_, decode_eq_ok hl, fun f hf => ?_⟩
  have hids : (t.fields.map fun f => (f.1, f.2.read b)).map Prod.fst = t.fields.map Prod.fst := by
    rw [List.map_map]
    rfl
  have hget : (⟨t.fields.map fun f => (f.1, f.2.read b)⟩ : Values ι).get? f.1 = some (f.2.read b) :=
    Values.get?_of_mem (by rw [hids]; exact ht.nodup) (List.mem_map.2 ⟨f, hf, rfl⟩)
  by_cases hid : f.1 ∈ values.entries.map Prod.fst
  · obtain ⟨e, he, hfe⟩ := List.mem_map.1 hid
    have hs : t.spec? e.1 = some f.2 := by rw [hfe]; exact spec?_of_mem ht.nodup hf
    have hgiven := Values.get?_of_mem hn he
    rw [ht.read_of_encode_uint hp hn hu hb he hs] at hget
    rw [hfe] at hgiven
    rw [Values.uint, Values.uint, Values.uint?, Values.uint?, hget, hgiven]
  · have hzero := ht.read_of_encode_uint_of_not_mem hp hb hf (Nat.le_trans (stop_le_minLength hf) hm) hid
    rw [hzero] at hget
    rw [Values.uint, Values.uint, Values.uint?, Values.uint?, hget, Values.get?_eq_none hid]
    rfl

end Table

end StorageCommands.Layout
