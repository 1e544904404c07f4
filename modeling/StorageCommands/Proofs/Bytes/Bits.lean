import Mathlib.Data.List.Induction
import StorageCommands.Proofs.Bytes.Window

/-!
# Bits of byte strings

`bitAt` numbers the bits of a byte string from the lowest bit of the first byte. A string is determined by its length
and its bits (`eq_of_bitAt`), and so every reader and writer is described by the bits it reads and leaves:

- integers: `testBit_littleEndian`, and for both byte orders `ByteOrder.testBit_read` and `ByteOrder.bitAt_write`, where
  `ByteOrder.position` is the place of a bit of the integer in the string;
- bit ranges: `testBit_readBits`, `bitAt_writeBits`, and as windows of the integer that the whole string stores
  `readBits_eq_div_mod`, `littleEndian_writeBits`.

Big-endian integers are the little-endian ones of the reversed string (`bigEndian_eq`, `ofBigEndian_eq`).
-/

namespace StorageCommands.Bytes

/-! ## Bits by position -/

theorem bitAt_of_length_le {b : Bytes} {pos : Nat} (h : 8 * b.length ≤ pos) : b.bitAt pos = false := by
  rw [bitAt, byteAt_of_length_le (by omega)]
  simp

/-- A bit of a byte of the string. -/
theorem testBit_byteAt (b : Bytes) (i : Nat) {k : Nat} (h : k < 8) :
    (b.byteAt i).toNat.testBit k = b.bitAt (8 * i + k) := by
  rw [bitAt, show (8 * i + k) / 8 = i by omega, show (8 * i + k) % 8 = k by omega]

/-- Two bytes with the same bits are the same. -/
theorem eq_of_testBit {x y : UInt8} (h : ∀ k < 8, x.toNat.testBit k = y.toNat.testBit k) : x = y := by
  apply UInt8.toNat_inj.1
  apply Nat.eq_of_testBit_eq
  intro k
  by_cases hk : k < 8
  · exact h k hk
  · have hp : 2 ^ 8 ≤ 2 ^ k := Nat.pow_le_pow_right (by omega) (by omega)
    rw [Nat.testBit_lt_two_pow (by have := x.toNat_lt; omega), Nat.testBit_lt_two_pow (by have := y.toNat_lt; omega)]

/-- **Extensionality**: two strings of one length with the same bits are the same. -/
theorem eq_of_bitAt {b c : Bytes} (hl : b.length = c.length)
    (h : ∀ pos < 8 * b.length, b.bitAt pos = c.bitAt pos) : b = c := by
  apply eq_of_byteAt hl
  intro i hi
  apply eq_of_testBit
  intro k hk
  rw [testBit_byteAt b i hk, testBit_byteAt c i hk]
  exact h _ (by omega)

@[simp] theorem bitAt_zeros (n pos : Nat) : (zeros n).bitAt pos = false := by simp [bitAt]

theorem bitAt_cons (x : UInt8) (b : Bytes) (pos : Nat) :
    bitAt (x :: b) pos = if pos < 8 then x.toNat.testBit pos else b.bitAt (pos - 8) := by
  unfold bitAt
  by_cases h : pos < 8
  · rw [if_pos h, show pos / 8 = 0 by omega, show pos % 8 = pos by omega, byteAt_cons_zero]
  · rw [if_neg h, show pos / 8 = (pos - 8) / 8 + 1 by omega, byteAt_cons_succ]
    congr 1
    omega

theorem bitAt_slice (b : Bytes) (offset len pos : Nat) :
    (b.slice offset len).bitAt pos = if pos < 8 * len then b.bitAt (8 * offset + pos) else false := by
  rw [bitAt, byteAt_slice]
  by_cases h : pos < 8 * len
  · rw [if_pos h, if_pos (by omega), testBit_byteAt _ _ (by omega)]
    congr 1
    omega
  · rw [if_neg h, if_neg (by omega)]
    simp

theorem bitAt_overwrite {b new : Bytes} {offset : Nat} (h : offset ≤ b.length) (pos : Nat) :
    (b.overwrite offset new).bitAt pos =
      if 8 * offset ≤ pos ∧ pos < 8 * (offset + new.length) then new.bitAt (pos - 8 * offset) else b.bitAt pos := by
  rw [bitAt, byteAt_overwrite h]
  by_cases hp : 8 * offset ≤ pos ∧ pos < 8 * (offset + new.length)
  · rw [if_pos hp, if_pos (by omega), testBit_byteAt _ _ (by omega)]
    congr 1
    omega
  · rw [if_neg hp, if_neg (by omega), bitAt]

theorem bitAt_zipWith_or {b c : Bytes} (h : b.length = c.length) (pos : Nat) :
    bitAt (List.zipWith (· ||| ·) b c) pos = (b.bitAt pos || c.bitAt pos) := by
  rw [bitAt, byteAt_zipWith_or h, UInt8.toNat_or, Nat.testBit_or, ← bitAt, ← bitAt]

/-! ## Integers -/

/-- The bits of a little-endian integer are those of its bytes. -/
theorem testBit_littleEndian (b : Bytes) (i : Nat) : b.littleEndian.testBit i = b.bitAt i := by
  induction b generalizing i with
  | nil => simp [littleEndian, bitAt_of_length_le]
  | cons x b ih =>
    rw [littleEndian, bitAt_cons, Nat.add_comm, show 256 = 2 ^ 8 from rfl,
      Nat.testBit_two_pow_mul_add _ x.toNat_lt, ih]

theorem littleEndian_lt (b : Bytes) : b.littleEndian < 2 ^ (8 * b.length) := by
  apply Nat.lt_pow_two_of_testBit
  intro i hi
  rw [testBit_littleEndian, bitAt_of_length_le hi]

theorem bitAt_ofLittleEndian (n v pos : Nat) :
    (ofLittleEndian n v).bitAt pos = (decide (pos < 8 * n) && v.testBit pos) := by
  induction n generalizing v pos with
  | zero => simp [ofLittleEndian, bitAt_of_length_le]
  | succ n ih =>
    rw [ofLittleEndian, bitAt_cons, UInt8.toNat_ofNat', Nat.testBit_mod_two_pow, ih, show 256 = 2 ^ 8 from rfl,
      Nat.testBit_div_two_pow]
    by_cases h : pos < 8
    · simp [h, show pos < 8 * (n + 1) by omega]
    · simp [h, show pos - 8 + 8 = pos by omega, show pos - 8 < 8 * n ↔ pos < 8 * (n + 1) by omega]

theorem bigEndian_append (b : Bytes) (x : UInt8) : bigEndian (b ++ [x]) = 256 * bigEndian b + x.toNat := by
  simp [bigEndian, List.foldl_append]

/-- The big-endian integer of a string is the little-endian one of the reversed string. -/
theorem bigEndian_eq (b : Bytes) : b.bigEndian = littleEndian b.reverse := by
  induction b using List.reverseRecOn with
  | nil => rfl
  | append_singleton b x ih =>
    rw [bigEndian_append, ih, List.reverse_concat, littleEndian, Nat.add_comm]

theorem ofBigEndian_eq (n v : Nat) : ofBigEndian n v = (ofLittleEndian n v).reverse := by
  have snoc (n v : Nat) : ofLittleEndian (n + 1) v = ofLittleEndian n v ++ [UInt8.ofNat (v >>> (8 * n))] := by
    induction n generalizing v with
    | zero => simp [ofLittleEndian]
    | succ n ih =>
      have hv : v / 256 = v >>> 8 := (Nat.shiftRight_eq_div_pow v 8).symm
      rw [ofLittleEndian, ih, ofLittleEndian, hv, ← Nat.shiftRight_add, Nat.add_comm 8, List.cons_append]
      rfl
  induction n with
  | zero => rfl
  | succ n ih => rw [ofBigEndian, ih, snoc, List.reverse_append]; rfl

theorem bitAt_reverse {b : Bytes} {pos : Nat} (h : pos < 8 * b.length) :
    bitAt b.reverse pos = b.bitAt (8 * (b.length - 1 - pos / 8) + pos % 8) := by
  rw [bitAt, byteAt_reverse (by omega), testBit_byteAt _ _ (by omega)]

/-! ## Bit ranges -/

/-- Changing one bit of a byte leaves the others. -/
theorem testBit_withBit (x : UInt8) {i k : Nat} (bit : Bool) (hi : i < 8) (hk : k < 8) :
    (withBit x i bit).toNat.testBit k = if k = i then bit else x.toNat.testBit k := by
  have hp : 2 ^ i < 2 ^ 8 := Nat.pow_lt_pow_right (by omega) hi
  have hm : (UInt8.ofNat (1 <<< i)).toNat = 2 ^ i := by
    rw [UInt8.toNat_ofNat', Nat.one_shiftLeft, Nat.mod_eq_of_lt hp]
  cases bit with
  | true =>
    simp only [withBit, if_true, UInt8.toNat_or, hm, Nat.testBit_or, Nat.testBit_two_pow]
    by_cases h : k = i
    · simp [h]
    · simp [h, Ne.symm h]
  | false =>
    have hn : (~~~UInt8.ofNat (1 <<< i)).toNat = 2 ^ 8 - (2 ^ i + 1) := by
      rw [UInt8.toNat_not, hm, show UInt8.size = 2 ^ 8 from rfl]
      omega
    simp only [withBit, Bool.false_eq_true, if_false, UInt8.toNat_and, hn, Nat.testBit_and,
      Nat.testBit_two_pow_sub_succ hp, Nat.testBit_two_pow]
    by_cases h : k = i
    · simp [h]
    · simp [h, Ne.symm h, hk]

theorem bitAt_setBit {b : Bytes} {pos : Nat} (h : pos < 8 * b.length) (bit : Bool) (q : Nat) :
    (b.setBit pos bit).bitAt q = if q = pos then bit else b.bitAt q := by
  rw [bitAt, setBit, byteAt_modify _ (by omega)]
  by_cases hb : pos / 8 = q / 8
  · rw [if_pos hb, testBit_withBit _ _ (by omega) (by omega), ← bitAt]
    simp only [show q % 8 = pos % 8 ↔ q = pos by omega]
  · rw [if_neg hb, ← bitAt, if_neg (by omega)]

theorem testBit_readBits (b : Bytes) (pos width i : Nat) :
    (b.readBits pos width).testBit i = (decide (i < width) && b.bitAt (pos + i)) := by
  induction width generalizing pos i with
  | zero => simp [readBits]
  | succ width ih =>
    have h0 : (b.bitAt pos).toNat < 2 ^ 1 := by cases b.bitAt pos <;> decide
    rw [readBits, Nat.add_comm, show 2 = 2 ^ 1 from rfl, Nat.testBit_two_pow_mul_add _ h0, ih]
    cases i with
    | zero => cases b.bitAt pos <;> simp
    | succ i => simp [show pos + 1 + i = pos + (i + 1) by omega]

/-- Writing a bit range replaces its bits and no other. -/
theorem bitAt_writeBits {b : Bytes} {pos width : Nat} (h : pos + width ≤ 8 * b.length) (v q : Nat) :
    (b.writeBits pos width v).bitAt q = if pos ≤ q ∧ q < pos + width then v.testBit (q - pos) else b.bitAt q := by
  induction width generalizing b pos v with
  | zero => rw [writeBits, if_neg (by omega)]
  | succ width ih =>
    rw [writeBits, ih (by rw [length_setBit]; omega), bitAt_setBit (by omega)]
    by_cases hq : q = pos
    · rw [if_neg (by omega), if_pos hq, if_pos (by omega), hq, Nat.sub_self]
    · by_cases hr : pos ≤ q ∧ q < pos + (width + 1)
      · rw [if_pos (by omega), if_pos hr, ← Nat.testBit_add_one, show q - (pos + 1) + 1 = q - pos by omega]
      · rw [if_neg (by omega), if_neg hq, if_neg hr]

/-- A bit range is read bit by bit, beginning with the lowest one. -/
theorem readBits_succ (b : Bytes) (pos width : Nat) :
    b.readBits pos (width + 1) = b.readBits pos width ||| (b.bitAt (pos + width)).toNat <<< width := by
  apply Nat.eq_of_testBit_eq
  intro i
  rw [Nat.testBit_or, testBit_readBits, testBit_readBits, Nat.testBit_shiftLeft, Nat.testBit_bool_toNat]
  by_cases hi : i = width
  · simp [hi]
  · have hlt : i < width + 1 ↔ i < width := by omega
    have hzero : (decide (width ≤ i) && decide (i - width = 0)) = false := by
      rw [Bool.and_eq_false_iff, decide_eq_false_iff_not, decide_eq_false_iff_not]
      omega
    rw [← Bool.and_assoc, hzero, Bool.false_and, Bool.or_false, decide_eq_decide.2 hlt]

/-- A bit range is written bit by bit, beginning with the lowest one. -/
theorem writeBits_succ (b : Bytes) (pos width v : Nat) :
    b.writeBits pos (width + 1) v = (b.writeBits pos width v).setBit (pos + width) (v.testBit width) := by
  induction width generalizing b pos v with
  | zero => rfl
  | succ width ih =>
    rw [writeBits, ih, writeBits, Nat.testBit_succ, Nat.add_right_comm, Nat.add_assoc]

/-! ## Bit ranges as windows of one integer -/

/-- A bit range is a window of the integer that the whole string stores. -/
theorem readBits_eq_div_mod (b : Bytes) (pos width : Nat) :
    b.readBits pos width = b.littleEndian / 2 ^ pos % 2 ^ width := by
  apply Nat.eq_of_testBit_eq
  intro i
  rw [testBit_readBits, Nat.testBit_mod_two_pow, Nat.testBit_div_two_pow, testBit_littleEndian, Nat.add_comm]

/-- A byte-aligned bit range is a little-endian integer. -/
theorem readBits_eq_littleEndian (b : Bytes) (offset len : Nat) :
    b.readBits (8 * offset) (8 * len) = (b.slice offset len).littleEndian := by
  apply Nat.eq_of_testBit_eq
  intro i
  rw [testBit_readBits, testBit_littleEndian, bitAt_slice]
  by_cases h : i < 8 * len
  · rw [if_pos h, decide_eq_true h, Bool.true_and]
  · rw [if_neg h, decide_eq_false h, Bool.false_and]

/-- An integer is what lies below a window, the window, and what lies above it. -/
theorem below_add_window (n pos width : Nat) :
    n % 2 ^ pos + 2 ^ pos * (n / 2 ^ pos % 2 ^ width + 2 ^ width * (n / 2 ^ (pos + width))) = n := by
  rw [Nat.pow_add, ← Nat.div_div_eq_div_mul, Nat.mod_add_div, Nat.mod_add_div]

/-- Writing a bit range puts a new window between what lies below it and what lies above it. -/
theorem littleEndian_writeBits {b : Bytes} {pos width v : Nat} (h : pos + width ≤ 8 * b.length) (hv : v < 2 ^ width) :
    (b.writeBits pos width v).littleEndian =
      b.littleEndian % 2 ^ pos + 2 ^ pos * (v + 2 ^ width * (b.littleEndian / 2 ^ (pos + width))) := by
  apply Nat.eq_of_testBit_eq
  intro i
  rw [testBit_littleEndian, bitAt_writeBits h, Nat.add_comm (_ % _), Nat.add_comm v,
    Nat.testBit_two_pow_mul_add _ (Nat.mod_lt _ (Nat.two_pow_pos pos)), Nat.testBit_two_pow_mul_add _ hv,
    Nat.testBit_mod_two_pow, Nat.testBit_div_two_pow, testBit_littleEndian, testBit_littleEndian]
  by_cases hlow : i < pos
  · rw [if_neg (by omega), if_pos hlow, decide_eq_true hlow, Bool.true_and]
  · by_cases hin : i < pos + width
    · rw [if_pos (by omega), if_neg hlow, if_pos (by omega)]
    · rw [if_neg (by omega), if_neg hlow, if_neg (by omega), show i - pos - width + (pos + width) = i by omega]

end StorageCommands.Bytes

namespace StorageCommands.ByteOrder

open Bytes

/-! ## Byte orders -/

/-- Where bit `i` of an integer of `n` bytes is stored; read the other way round, which bit is stored there. -/
def position : ByteOrder → Nat → Nat → Nat
  | little, _, i => i
  | big, n, i => 8 * (n - 1 - i / 8) + i % 8

theorem position_lt (order : ByteOrder) {n i : Nat} (h : i < 8 * n) : order.position n i < 8 * n := by
  cases order with
  | little => exact h
  | big => simp only [position]; omega

theorem position_position (order : ByteOrder) {n i : Nat} (h : i < 8 * n) :
    order.position n (order.position n i) = i := by
  cases order with
  | little => rfl
  | big => simp only [position]; omega

theorem testBit_read (order : ByteOrder) (b : Bytes) (i : Nat) :
    (order.read b).testBit i = (decide (i < 8 * b.length) && b.bitAt (order.position b.length i)) := by
  by_cases h : i < 8 * b.length
  · cases order with
    | little => simp [read, position, testBit_littleEndian, h]
    | big => simp [read, position, bigEndian_eq, testBit_littleEndian, bitAt_reverse, h]
  · have hl : bitAt b.reverse i = false := bitAt_of_length_le (by rw [List.length_reverse]; omega)
    cases order with
    | little => simp [read, position, testBit_littleEndian, bitAt_of_length_le, h, Nat.le_of_not_lt h]
    | big => simp [read, bigEndian_eq, testBit_littleEndian, hl, h]

theorem bitAt_write (order : ByteOrder) {n pos : Nat} (v : Nat) (h : pos < 8 * n) :
    (order.write n v).bitAt pos = v.testBit (order.position n pos) := by
  cases order with
  | little => simp [write, position, bitAt_ofLittleEndian, h]
  | big =>
    have hl : pos < 8 * (ofLittleEndian n v).length := by rw [length_ofLittleEndian]; exact h
    have hr := bitAt_reverse hl
    rw [write, ofBigEndian_eq, hr, length_ofLittleEndian, bitAt_ofLittleEndian, position,
      decide_eq_true (by omega), Bool.true_and]

/-- Reading gives back what was written, as far as it fits. -/
theorem read_write (order : ByteOrder) (n v : Nat) : order.read (order.write n v) = v % 2 ^ (8 * n) := by
  apply Nat.eq_of_testBit_eq
  intro i
  rw [testBit_read, length_write, Nat.testBit_mod_two_pow]
  by_cases h : i < 8 * n
  · rw [bitAt_write order v (order.position_lt h), order.position_position h]
  · simp [h]

/-- Writing gives back what was read. -/
theorem write_read (order : ByteOrder) (b : Bytes) : order.write b.length (order.read b) = b := by
  apply eq_of_bitAt (length_write ..)
  intro pos hp
  rw [length_write] at hp
  rw [bitAt_write order _ hp, testBit_read, decide_eq_true (order.position_lt hp), order.position_position hp,
    Bool.true_and]

end StorageCommands.ByteOrder
