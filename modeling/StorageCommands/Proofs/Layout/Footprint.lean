import StorageCommands.Layout.Table
import StorageCommands.Proofs.Bytes.Bits
import StorageCommands.Proofs.Text.Padded

/-!
# The bits of a field

`Spec.covers` says which bits of the buffer belong to a field: those that a mask selects in its byte order, the bytes
of a range, the bits of a bit range. They lie between the field's first byte and `stop` (`covers_bounds`), and they are
all that matters to it:

- writing changes no other bit (`bitAt_write_of_not_covers`) and keeps the length (`length_write`);
- reading looks at no other bit (`read_congr`);
- a value in the form in which the field gives it back (`Canonical`), written over zeros, is read back (`read_write`).

Two fields are `Disjoint` if they share no bit, which is decided on the bytes that both touch (`apart_iff`).
-/

namespace StorageCommands.Layout

open Bytes

/-! ## Masks -/

/-- Every bit of a mask lies in the bytes that it spans. -/
theorem lt_of_testBit_mask {m i : Nat} (h : m.testBit i = true) : i < 8 * maskWidth m := by
  have hm : m ≠ 0 := by rintro rfl; simp at h
  have hi : i < m.log2 + 1 := by
    by_contra hc
    rw [Nat.testBit_lt_two_pow (Nat.lt_of_lt_of_le Nat.lt_log2_self (Nat.pow_le_pow_right (by omega) (by omega)))] at h
    cases h
  unfold maskWidth bitLength
  rw [if_neg hm]
  omega

namespace Spec

/-! ## Which bits a field covers -/

/-- The first byte that the field touches. -/
def start : Spec → Nat
  | mask offset .. => offset
  | bytes offset .. => offset
  | bits offset _ => offset / 8

/-- Whether a bit of the buffer belongs to the field. -/
def covers : Spec → Nat → Bool
  | mask offset m order, pos =>
    decide (8 * offset ≤ pos ∧ pos < 8 * (offset + maskWidth m))
      && m.testBit (order.position (maskWidth m) (pos - 8 * offset))
  | bytes offset len _, pos => decide (8 * offset ≤ pos ∧ pos < 8 * (offset + len))
  | bits offset width, pos => decide (offset ≤ pos ∧ pos < offset + width)

/-- A field covers bits of its own bytes only. -/
theorem covers_bounds {s : Spec} {pos : Nat} (h : s.covers pos = true) : 8 * s.start ≤ pos ∧ pos < 8 * s.stop := by
  cases s with
  | mask offset m order =>
    simp only [covers, Bool.and_eq_true, decide_eq_true_eq] at h
    exact h.1
  | bytes offset len transform =>
    simp only [covers, decide_eq_true_eq] at h
    exact h
  | bits offset width =>
    simp only [covers, decide_eq_true_eq] at h
    simp only [start, stop]
    omega

/-- The bit of the buffer that holds a bit of a mask. -/
theorem covers_mask {offset m i : Nat} {order : ByteOrder} (h : m.testBit i = true) :
    (mask offset m order).covers (8 * offset + order.position (maskWidth m) i) = true := by
  have hi := lt_of_testBit_mask h
  have hp := order.position_lt hi
  simp only [covers, Nat.add_sub_cancel_left, order.position_position hi, h, Bool.and_true, decide_eq_true_eq]
  omega

/-! ## Disjoint fields -/

/-- No bit belongs to both fields. -/
def Disjoint (s t : Spec) : Prop := ∀ pos, s.covers pos = true → t.covers pos = false

theorem Disjoint.symm {s t : Spec} (h : s.Disjoint t) : t.Disjoint s := by
  intro pos ht
  cases hs : s.covers pos with
  | false => rfl
  | true => rw [h pos hs] at ht; cases ht

/-- Whether the fields lie in different bytes, or share no bit of the first one's bytes. -/
def apart (s t : Spec) : Bool :=
  decide (s.stop ≤ t.start) || decide (t.stop ≤ s.start)
    || (List.range (8 * (s.stop - s.start))).all fun k => !(s.covers (8 * s.start + k) && t.covers (8 * s.start + k))

theorem apart_iff {s t : Spec} : s.apart t = true ↔ s.Disjoint t := by
  simp only [apart, Bool.or_eq_true, decide_eq_true_eq, List.all_eq_true, List.mem_range, Bool.not_eq_true',
    Bool.and_eq_false_iff]
  constructor
  · intro h pos hs
    have hb := covers_bounds hs
    cases ht : t.covers pos with
    | false => rfl
    | true =>
      have ht' := covers_bounds ht
      rcases h with (h | h) | h
      · omega
      · omega
      · have := h (pos - 8 * s.start) (by omega)
        rw [show 8 * s.start + (pos - 8 * s.start) = pos by omega, hs, ht] at this
        simp at this
  · intro h
    refine Or.inr fun k _ => ?_
    cases hs : s.covers (8 * s.start + k) with
    | false => exact Or.inl rfl
    | true => exact Or.inr (h _ hs)

instance (s t : Spec) : Decidable (s.Disjoint t) := decidable_of_iff _ apart_iff

/-! ## Writing -/

/-- A byte string copied into a range that the buffer has. -/
theorem length_copyInto {b new : Bytes} {offset len : Nat} (h : offset + len ≤ b.length) :
    (copyInto b offset len new).length = b.length := by
  apply length_overwrite
  rw [List.length_take]
  omega

theorem bitAt_copyInto {b new : Bytes} {offset len pos : Nat} (h : offset + len ≤ b.length)
    (hp : ¬(8 * offset ≤ pos ∧ pos < 8 * (offset + len))) : (copyInto b offset len new).bitAt pos = b.bitAt pos := by
  rw [copyInto, bitAt_overwrite (by omega), if_neg (by rw [List.length_take]; omega)]

/-- Writing a field keeps the length of the buffer. -/
theorem length_write {s : Spec} {b : Bytes} (v : Value) (h : s.stop ≤ b.length) : (s.write v b).length = b.length := by
  cases s with
  | mask offset m order =>
    simp only [stop] at h
    cases v with
    | uint n =>
      refine length_overwrite ?_
      rw [List.length_zipWith, ByteOrder.length_write, length_slice h]
      omega
    | bytes _ | text _ => rfl
  | bytes offset len transform =>
    simp only [stop] at h
    cases v with
    | uint n => exact length_overwrite (by rw [ByteOrder.length_write]; exact h)
    | bytes new => exact length_copyInto h
    | text t => exact length_copyInto h
  | bits offset width =>
    cases v with
    | uint n => exact length_writeBits ..
    | bytes _ | text _ => rfl

/-- The bits of a mask field's bytes after a value was set on top of them. -/
theorem bitAt_write_mask {b : Bytes} {offset m : Nat} {order : ByteOrder} {pos : Nat} (n : Nat)
    (h : offset + maskWidth m ≤ b.length) (hp : 8 * offset ≤ pos ∧ pos < 8 * (offset + maskWidth m)) :
    ((mask offset m order).write (.uint n) b).bitAt pos = (b.bitAt pos ||
      ((n <<< trailingZeros m) &&& m).testBit (order.position (maskWidth m) (pos - 8 * offset))) := by
  have hl : (b.slice offset (maskWidth m)).length
      = (order.write (maskWidth m) ((n <<< trailingZeros m) &&& m)).length := by
    rw [length_slice h, ByteOrder.length_write]
  rw [write, bitAt_overwrite (by omega), if_pos (by rw [List.length_zipWith, ← hl, length_slice h]; omega),
    bitAt_zipWith_or hl, bitAt_slice, if_pos (by omega), order.bitAt_write _ (by omega)]
  congr 2
  omega

/-- **Frame**: writing a field changes no bit that the field does not cover. -/
theorem bitAt_write_of_not_covers {s : Spec} {b : Bytes} (v : Value) {pos : Nat} (h : s.stop ≤ b.length)
    (hp : s.covers pos = false) : (s.write v b).bitAt pos = b.bitAt pos := by
  cases s with
  | mask offset m order =>
    simp only [stop] at h
    cases v with
    | uint n =>
      by_cases hw : 8 * offset ≤ pos ∧ pos < 8 * (offset + maskWidth m)
      · simp only [covers, hw, and_self, decide_true, Bool.true_and] at hp
        rw [bitAt_write_mask n h hw, Nat.testBit_and, hp, Bool.and_false, Bool.or_false]
      · rw [write, bitAt_overwrite (by omega), if_neg]
        rw [List.length_zipWith, ByteOrder.length_write, length_slice h, Nat.min_self]
        exact hw
    | bytes _ | text _ => rfl
  | bytes offset len transform =>
    simp only [stop] at h
    simp only [covers, decide_eq_false_iff_not] at hp
    cases v with
    | uint n => rw [write, bitAt_overwrite (by omega), ByteOrder.length_write, if_neg hp]
    | bytes new => exact bitAt_copyInto h hp
    | text t => exact bitAt_copyInto h hp
  | bits offset width =>
    simp only [stop] at h
    simp only [covers, decide_eq_false_iff_not] at hp
    cases v with
    | uint n => rw [write, bitAt_writeBits (by omega), if_neg hp]
    | bytes _ | text _ => rfl

/-! ## Reading -/

/-- Slices with the same bits are the same. -/
theorem slice_congr {b c : Bytes} {offset len : Nat} (hb : offset + len ≤ b.length) (hc : offset + len ≤ c.length)
    (h : ∀ pos, 8 * offset ≤ pos → pos < 8 * (offset + len) → b.bitAt pos = c.bitAt pos) :
    b.slice offset len = c.slice offset len := by
  apply eq_of_bitAt (by rw [length_slice hb, length_slice hc])
  intro pos hp
  rw [length_slice hb] at hp
  rw [bitAt_slice, bitAt_slice, if_pos hp, if_pos hp]
  exact h _ (by omega) (by omega)

/-- The integer under a mask, bit by bit. -/
theorem testBit_masked {b : Bytes} {offset m : Nat} (order : ByteOrder) (h : offset + maskWidth m ≤ b.length)
    (i : Nat) :
    (order.read (b.slice offset (maskWidth m)) &&& m).testBit i =
      (b.bitAt (8 * offset + order.position (maskWidth m) i) && m.testBit i) := by
  rw [Nat.testBit_and, order.testBit_read, length_slice h, bitAt_slice]
  cases hm : m.testBit i with
  | false => simp
  | true =>
    have hi := lt_of_testBit_mask hm
    rw [if_pos (order.position_lt hi), decide_eq_true hi, Bool.true_and]

/-- **Reading looks only at the bits that the field covers.** -/
theorem read_congr {s : Spec} {b c : Bytes} (hb : s.stop ≤ b.length) (hc : s.stop ≤ c.length)
    (h : ∀ pos, s.covers pos = true → b.bitAt pos = c.bitAt pos) : s.read b = s.read c := by
  cases s with
  | mask offset m order =>
    simp only [stop] at hb hc
    have hr : order.read (b.slice offset (maskWidth m)) &&& m = order.read (c.slice offset (maskWidth m)) &&& m := by
      apply Nat.eq_of_testBit_eq
      intro i
      rw [testBit_masked order hb, testBit_masked order hc]
      cases hm : m.testBit i with
      | false => simp
      | true => rw [h _ (covers_mask hm)]
    rw [read, read, hr]
  | bytes offset len transform =>
    have hs : b.slice offset len = c.slice offset len :=
      slice_congr hb hc fun pos h1 h2 => h pos (by simp [covers, h1, h2])
    simp only [read, hs]
  | bits offset width =>
    have hr : b.readBits offset width = c.readBits offset width := by
      apply Nat.eq_of_testBit_eq
      intro i
      rw [testBit_readBits, testBit_readBits]
      by_cases hi : i < width
      · rw [h _ (by simp [covers, hi])]
      · simp [hi]
    rw [read, read, hr]

/-! ## Reading what was written -/

/-- The values that the field gives back: integers that fit under the mask or in the range, byte strings of the full
length, and texts that fit and do not end in padding. -/
def Canonical : Spec → Value → Prop
  | mask _ m _, .uint n => (n <<< trailingZeros m) &&& m = n <<< trailingZeros m
  | bytes _ len .littleEndian, .uint n => n ≤ widthMax (8 * len)
  | bytes _ len .bigEndian, .uint n => n ≤ widthMax (8 * len)
  | bytes _ len .raw, .bytes b => b.length = len
  | bytes _ len .text, .text t => (Utf8.encode t).length ≤ len ∧ ∀ c ∈ t.toList.getLast?, Padded.isPadding c = false
  | bits _ width, .uint n => n ≤ widthMax width
  | _, _ => False

instance : (s : Spec) → (v : Value) → Decidable (s.Canonical v)
  | mask _ m _, .uint n => Nat.decEq (n <<< trailingZeros m &&& m) (n <<< trailingZeros m)
  | bytes _ len .littleEndian, .uint n | bytes _ len .bigEndian, .uint n => Nat.decLe n (widthMax (8 * len))
  | bytes _ len .raw, .bytes b => Nat.decEq b.length len
  -- the quantifier ranges over one character at most, not over all
  | bytes _ len .text, .text t =>
    @instDecidableAnd _ _ (Nat.decLe (Utf8.encode t).length len) (Option.decidableForallMem _)
  | bits _ width, .uint n => Nat.decLe n (widthMax width)
  | mask .., .bytes _ | mask .., .text _ | bits .., .bytes _ | bits .., .text _ => isFalse id
  | bytes _ _ .littleEndian, .bytes _ | bytes _ _ .littleEndian, .text _ => isFalse id
  | bytes _ _ .bigEndian, .bytes _ | bytes _ _ .bigEndian, .text _ => isFalse id
  | bytes _ _ .raw, .uint _ | bytes _ _ .raw, .text _ => isFalse id
  | bytes _ _ .text, .uint _ | bytes _ _ .text, .bytes _ => isFalse id

theorem lt_of_le_widthMax {n bits : Nat} (h : n ≤ widthMax bits) : n < 2 ^ bits := by
  have := Nat.two_pow_pos bits
  unfold widthMax at h
  omega

theorem read_write_mask {b : Bytes} {offset m n : Nat} {order : ByteOrder} (h : offset + maskWidth m ≤ b.length)
    (hz : ∀ pos, (mask offset m order).covers pos = true → b.bitAt pos = false)
    (hn : (n <<< trailingZeros m) &&& m = n <<< trailingZeros m) :
    (mask offset m order).read ((mask offset m order).write (.uint n) b) = .uint n := by
  have hl : offset + maskWidth m ≤ ((mask offset m order).write (.uint n) b).length := by
    rw [length_write (s := mask offset m order) (.uint n) h]; exact h
  have hr : order.read (((mask offset m order).write (.uint n) b).slice offset (maskWidth m)) &&& m
      = n <<< trailingZeros m := by
    rw [← hn]
    apply Nat.eq_of_testBit_eq
    intro i
    rw [testBit_masked order hl]
    cases hm : m.testBit i with
    | false => simp [hm]
    | true =>
      have hi := lt_of_testBit_mask hm
      have hp := order.position_lt hi
      rw [bitAt_write_mask n h (by omega), hz _ (covers_mask hm), Nat.add_sub_cancel_left, order.position_position hi]
      simp
  rw [read, hr, Nat.shiftLeft_shiftRight]

theorem read_write_bits {b : Bytes} {offset width n : Nat} (h : (bits offset width).stop ≤ b.length)
    (hn : n ≤ widthMax width) : (bits offset width).read ((bits offset width).write (.uint n) b) = .uint n := by
  simp only [stop] at h
  simp only [read, write, Value.uint.injEq]
  apply Nat.eq_of_testBit_eq
  intro i
  rw [testBit_readBits, bitAt_writeBits (by omega)]
  by_cases hi : i < width
  · simp [hi]
  · rw [decide_eq_false hi, Bool.false_and, Nat.testBit_lt_two_pow]
    exact Nat.lt_of_lt_of_le (lt_of_le_widthMax hn) (Nat.pow_le_pow_right (by omega) (by omega))

theorem read_write_integer {b : Bytes} {offset len n : Nat} (order : ByteOrder) (h : offset + len ≤ b.length)
    (hn : n ≤ widthMax (8 * len)) : order.read ((b.overwrite offset (order.write len n)).slice offset len) = n := by
  rw [slice_overwrite (Nat.le_of_eq (ByteOrder.length_write ..)) h, ByteOrder.length_write,
    List.drop_of_length_le (Nat.le_of_eq (length_slice h)), List.append_nil, order.read_write,
    Nat.mod_eq_of_lt (lt_of_le_widthMax hn)]

/-- A text copied into a range of zeros, read as padded text. -/
theorem read_write_text {b : Bytes} {offset len : Nat} {t : String} (h : offset + len ≤ b.length)
    (hz : b.slice offset len = zeros len) (hl : (Utf8.encode t).length ≤ len)
    (ht : ∀ c ∈ t.toList.getLast?, Padded.isPadding c = false) :
    Padded.ofBytes ((copyInto b offset len (Utf8.encode t)).slice offset len) = t := by
  rw [copyInto, List.take_of_length_le hl, slice_overwrite hl h, hz, zeros, List.drop_replicate]
  refine Padded.ofBytes_encode_append ht fun x hx => ?_
  rw [List.eq_of_mem_replicate hx]
  rfl

/-- **One field**: a canonical value written over zeros is read back. -/
theorem read_write {s : Spec} {b : Bytes} {v : Value} (h : s.stop ≤ b.length) (hv : s.Canonical v)
    (hz : ∀ pos, s.covers pos = true → b.bitAt pos = false) : s.read (s.write v b) = v := by
  cases s with
  | mask offset m order =>
    cases v with
    | uint n => exact read_write_mask h hz hv
    | bytes _ | text _ => exact hv.elim
  | bytes offset len transform =>
    simp only [stop] at h
    cases transform with
    | raw =>
      cases v with
      | bytes new =>
        simp only [Canonical] at hv
        simp only [read, write, copyInto, List.take_of_length_le (Nat.le_of_eq hv), slice_overwrite (Nat.le_of_eq hv) h]
        rw [List.drop_of_length_le (Nat.le_of_eq ((length_slice h).trans hv.symm)), List.append_nil]
      | uint _ | text _ => exact hv.elim
    | littleEndian =>
      cases v with
      | uint n => exact congrArg Value.uint (read_write_integer .little h hv)
      | bytes _ | text _ => exact hv.elim
    | bigEndian =>
      cases v with
      | uint n => exact congrArg Value.uint (read_write_integer .big h hv)
      | bytes _ | text _ => exact hv.elim
    | text =>
      cases v with
      | text t =>
        have hs : b.slice offset len = zeros len := by
          apply eq_of_bitAt (by rw [length_slice h, length_zeros])
          intro pos hp
          rw [length_slice h] at hp
          rw [bitAt_slice, if_pos hp, bitAt_zeros]
          exact hz _ (by simp only [covers, decide_eq_true_eq]; omega)
        exact congrArg Value.text (read_write_text h hs hv.1 hv.2)
      | uint _ | bytes _ => exact hv.elim
  | bits offset width =>
    cases v with
    | uint n => exact read_write_bits h hv
    | bytes _ | text _ => exact hv.elim

end Spec

end StorageCommands.Layout
