import Mathlib.Order.Bounds.Defs
import StorageCommands.Proofs.Layout.Decoding

/-!
# Integers and their bytes

The bytes of an integer are its digits to the base 256, in one of two orders. Up to eight of them make a machine word,
and the two loops that put such digits into a buffer and take them out again, the one from the lowest digit up and the
other one from the highest digit down, are inverse to each other (`ByteOrder.exact_of_le`).

An integer under a mask has as many bytes as it takes to reach the highest bit of the mask, and no byte more
(`isLeast_maskWidth`). These are the bytes that are read and written under the mask (`spans_maskWidth`).

`integer_bytes_exact` puts this together.
-/

namespace StorageCommands

open Bytes Layout InPlace

namespace ByteOrder

/-! ## The other order -/

/-- The other byte order. -/
def reversed : ByteOrder → ByteOrder
  | big => little
  | little => big

theorem write_reversed (order : ByteOrder) (n v : Nat) : order.reversed.write n v = (order.write n v).reverse := by
  cases order with
  | little => exact ofBigEndian_eq n v
  | big => simp [reversed, write, ofBigEndian_eq]

theorem read_reversed (order : ByteOrder) (b : Bytes) : order.reversed.read b = order.read b.reverse := by
  cases order with
  | little => exact bigEndian_eq b
  | big => simp [reversed, read, bigEndian_eq]

/-! ## The digits of a machine word -/

/-- The integers of `n` bytes and the strings of `n` bytes determine each other, and the loops over a buffer of `n`
bytes pass from the one to the other. -/
structure Exact (order : ByteOrder) (n : Nat) : Prop where
  read_write : ∀ v, order.read (order.write n v) = v % 2 ^ (8 * n)
  write_read : ∀ b : Bytes, b.length = n → order.write n (order.read b) = b
  write_reversed : ∀ v, order.reversed.write n v = (order.write n v).reverse
  read_reversed : ∀ b : Bytes, b.length = n → order.reversed.read b = order.read b.reverse
  read_le : ∀ b : Bytes, b.length = n → order.read b ≤ widthMax (8 * n)
  put : ∀ (v : Nat) (b : Bytes), b.length = n → Runs (putInteger order 0 n v) b () (order.write n v)
  take : ∀ b : Bytes, b.length = n → Runs (takeInteger order 0 n) b (order.read b) b

/-- **Up to eight bytes** are the digits of a machine word. -/
theorem exact_of_le (order : ByteOrder) {n : Nat} (hn : n ≤ 8) : order.Exact n where
  read_write := order.read_write n
  write_read b hb := hb ▸ order.write_read b
  write_reversed := order.write_reversed n
  read_reversed b _ := order.read_reversed b
  read_le b hb := by
    have hle := Spec.read_slice_le order b 0 n
    rwa [slice, List.drop_zero, List.take_of_length_le (Nat.le_of_eq hb)] at hle
  put v b hb := by
    have hput : Runs (putInteger order 0 n v) b () (b.overwrite 0 (order.write n v)) :=
      runs_putInteger order v (by omega) hn
    have hall : b.overwrite 0 (order.write n v) = order.write n v := by simp [overwrite, hb]
    rwa [hall] at hput
  take b hb := by
    have htake : Runs (takeInteger order 0 n) b (order.read (b.slice 0 n)) b := runs_takeInteger order (by omega) hn
    rwa [slice, List.drop_zero, List.take_of_length_le (Nat.le_of_eq hb)] at htake

end ByteOrder

namespace Layout

/-! ## The bytes under a mask -/

/-- The highest bit of a mask is in the last byte that the mask spans. -/
theorem log2_bounds {m : Nat} (h : 0 < m) : 8 * (maskWidth m - 1) ≤ m.log2 ∧ m.log2 < 8 * maskWidth m := by
  rw [maskWidth, bitLength, if_neg (Nat.ne_of_gt h)]
  omega

/-- **The width of a mask** is the least number of bytes that have room for it. -/
theorem isLeast_maskWidth {m : Nat} (h : 0 < m) : IsLeast {k | m < 2 ^ (8 * k)} (maskWidth m) := by
  obtain ⟨hlow, hhigh⟩ := log2_bounds h
  refine ⟨(Nat.log2_lt (Nat.ne_of_gt h)).1 hhigh, fun k hk => ?_⟩
  have hlog : m.log2 < 8 * k := (Nat.log2_lt (Nat.ne_of_gt h)).2 hk
  omega

/-- What is read and written under a mask: `k` bytes from an offset on, the last of which in the order of the digits has
the highest bit of the mask. A buffer that does not have them all is not touched. -/
structure Spans (offset m : Nat) (order : ByteOrder) (k : Nat) : Prop where
  least : IsLeast {k | m < 2 ^ (8 * k)} k
  highest : order.position k m.log2 / 8 = order.place k (k - 1)
  stop : (Spec.mask offset m order).stop = offset + k
  take : ∀ b : Bytes, offset + k ≤ b.length →
    Runs (takeMasked offset m order) b ((order.read (b.slice offset k) &&& m) >>> trailingZeros m) b
  put : ∀ (n : Nat) (b : Bytes), offset + k ≤ b.length →
    Runs (putMasked offset m order n) b ()
      (b.overwrite offset (List.zipWith (· ||| ·) (b.slice offset k) (order.write k ((n <<< trailingZeros m) &&& m))))
  take_halts : ∀ b : Bytes, b.length < offset + k → (takeMasked offset m order).run.run b = (.error .outOfBounds, b)
  put_halts : ∀ (n : Nat) (b : Bytes), b.length < offset + k →
    (putMasked offset m order n).run.run b = (.error .outOfBounds, b)

/-- A range that is not inside the buffer cannot be taken. -/
theorem InPlace.run_range_halts {b : Bytes} {offset len : Nat} (h : b.length < offset + len) :
    (range offset len).run.run b = (.error .outOfBounds, b) := by
  have hget : Runs (get : Work Bytes) b b b := rfl
  rw [range, run_bind hget, if_pos h]
  rfl

theorem spans_maskWidth {offset m : Nat} (order : ByteOrder) (h : 0 < m) (h64 : m < 2 ^ 64) :
    Spans offset m order (maskWidth m) where
  least := isLeast_maskWidth h
  highest := by
    obtain ⟨hlow, hhigh⟩ := log2_bounds h
    cases order with
    | little => simp only [ByteOrder.position, ByteOrder.place]; omega
    | big => simp only [ByteOrder.position, ByteOrder.place]; omega
  stop := rfl
  take b hb := runs_takeMasked order hb h h64
  put n b hb := runs_putMasked order n hb h h64
  take_halts b hb := run_bind_of_halt _ (run_bind_of_halt _ (run_range_halts hb))
  put_halts n b hb := by
    have hscratch : 0 + maskWidth m ≤ (zeros 8).length := by
      have := maskWidth_le h64
      rw [length_zeros]
      omega
    have hput := runs_putInteger order ((n <<< trailingZeros m % 2 ^ 64) &&& m) hscratch (maskWidth_le h64)
    rw [putMasked, run_bind (runs_shiftLeft n (trailingZeros_lt h h64)), run_bind (runs_scratch hput)]
    exact run_bind_of_halt _ (run_range_halts hb)

end Layout

/-- **Integers and their bytes.** In either byte order, up to eight bytes and the integers that they have room for
determine each other, the one order is the other one backwards, and the two loops over a buffer, which run in opposite
directions, pass from integers to bytes and back. Under a mask, the bytes are those up to the highest bit of the mask,
and no others are read or changed. -/
theorem integer_bytes_exact :
    (∀ (order : ByteOrder) (n : Nat), n ≤ 8 → order.Exact n)
      ∧ ∀ (offset m : Nat) (order : ByteOrder), 0 < m → m < 2 ^ 64 → Spans offset m order (maskWidth m) :=
  ⟨fun order _ hn => order.exact_of_le hn, fun _ _ order h h64 => spans_maskWidth order h h64⟩

/-- Three bytes of an integer that has four, in both orders, and twelve bits under a mask that spans four bytes, which
are read, written, and not found in a shorter buffer. -/
theorem integer_bytes_exact_upperHalf : (let m := 0x0fff0000
    (3 ≤ 8 ∧ ByteOrder.big.read [0x34, 0x56, 0x78] = 0x12345678 % 2 ^ 24
      ∧ ByteOrder.little.write 3 0x12345678 = [0x34, 0x56, 0x78].reverse)
      ∧ 0 < m ∧ m < 2 ^ 64 ∧ IsLeast {k | m < 2 ^ (8 * k)} 4
      ∧ Runs (takeMasked 1 m .little) [9, 1, 2, 0xbc, 0xfa] 0xabc [9, 1, 2, 0xbc, 0xfa]
      ∧ Runs (putMasked 1 m .little 0xabc) [9, 1, 2, 0, 0xf0] () [9, 1, 2, 0xbc, 0xfa]
      ∧ (takeMasked 1 m .little).run.run [9, 1, 2, 0xbc] = (.error .outOfBounds, [9, 1, 2, 0xbc])) := by
  intro m
  obtain ⟨hdigits, hmask⟩ := integer_bytes_exact
  have hexact := hdigits .big 3 (by decide)
  have hspans := hmask 1 m .little (by decide) (by decide)
  have hwidth : maskWidth m = 4 := by decide
  have hshift : trailingZeros m = 16 := trailingZeros_ones_shiftLeft (n := 12) (by decide) 16
  have htake := hspans.take [9, 1, 2, 0xbc, 0xfa] (by decide)
  have hput := hspans.put 0xabc [9, 1, 2, 0, 0xf0] (by decide)
  have hbits : (ByteOrder.little.read (slice [9, 1, 2, 0xbc, 0xfa] 1 4) &&& m) >>> 16 = 0xabc := by decide
  have hbytes : overwrite [9, 1, 2, 0, 0xf0] 1 (List.zipWith (· ||| ·) (slice [9, 1, 2, 0, 0xf0] 1 4)
      (ByteOrder.little.write 4 (0xabc <<< 16 &&& m))) = [9, 1, 2, 0xbc, 0xfa] := by decide
  rw [hwidth, hshift, hbits] at htake
  rw [hwidth, hshift, hbytes] at hput
  exact ⟨⟨by decide, hexact.read_write 0x12345678, hexact.write_reversed 0x12345678⟩, by decide, by decide,
    hwidth ▸ hspans.least, htake, hput, hspans.take_halts _ (by decide)⟩

end StorageCommands
