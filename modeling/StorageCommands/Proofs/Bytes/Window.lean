import Mathlib.Algebra.Group.Nat.Defs
import StorageCommands.Bytes

/-!
# Windows of byte strings

A byte string is determined by its length and its bytes (`eq_of_byteAt`), so what an operation does is said by the
byte that it leaves at each index: `byteAt_append`, `byteAt_slice`, `byteAt_overwrite`, `byteAt_modify`.

`window` is a slice that never runs short: past the end of the string it goes on with zeros. Adjacent windows join
(`window_append`), and the start of a window is a window (`take_window`).
-/

namespace StorageCommands.Bytes

/-! ## Bytes by index -/

/-- Past the end, every byte reads as zero. -/
theorem byteAt_of_length_le {b : Bytes} {i : Nat} (h : b.length ≤ i) : b.byteAt i = 0 := by
  simp [byteAt, List.getD_eq_getElem?_getD, List.getElem?_eq_none h]

theorem byteAt_eq_getElem {b : Bytes} {i : Nat} (h : i < b.length) : b.byteAt i = b[i] := by
  simp [byteAt, List.getD_eq_getElem?_getD, h]

/-- **Extensionality**: two strings of one length with the same bytes are the same. -/
theorem eq_of_byteAt {b c : Bytes} (hl : b.length = c.length) (h : ∀ i < b.length, b.byteAt i = c.byteAt i) :
    b = c := by
  apply List.ext_getElem hl
  intro i hb hc
  rw [← byteAt_eq_getElem hb, ← byteAt_eq_getElem hc]
  exact h i hb

@[simp] theorem byteAt_cons_zero (x : UInt8) (b : Bytes) : byteAt (x :: b) 0 = x := rfl

@[simp] theorem byteAt_cons_succ (x : UInt8) (b : Bytes) (i : Nat) : byteAt (x :: b) (i + 1) = b.byteAt i := rfl

@[simp] theorem byteAt_zeros (n i : Nat) : (zeros n).byteAt i = 0 := by
  simp only [byteAt, zeros, List.getD_eq_getElem?_getD, List.getElem?_replicate]
  split <;> rfl

theorem byteAt_append (b c : Bytes) (i : Nat) :
    byteAt (b ++ c) i = if i < b.length then b.byteAt i else c.byteAt (i - b.length) := by
  simp only [byteAt, List.getD_eq_getElem?_getD, List.getElem?_append]
  split <;> rfl

theorem byteAt_take (b : Bytes) (n i : Nat) : byteAt (b.take n) i = if i < n then b.byteAt i else 0 := by
  simp only [byteAt, List.getD_eq_getElem?_getD, List.getElem?_take]
  split <;> rfl

theorem byteAt_drop (b : Bytes) (n i : Nat) : byteAt (b.drop n) i = b.byteAt (n + i) := by
  simp [byteAt, List.getD_eq_getElem?_getD, List.getElem?_drop]

theorem byteAt_reverse {b : Bytes} {i : Nat} (h : i < b.length) :
    byteAt b.reverse i = b.byteAt (b.length - 1 - i) := by
  simp only [byteAt, List.getD_eq_getElem?_getD, List.getElem?_reverse h]

theorem byteAt_zipWith_or {b c : Bytes} (h : b.length = c.length) (i : Nat) :
    byteAt (List.zipWith (· ||| ·) b c) i = b.byteAt i ||| c.byteAt i := by
  by_cases hi : i < b.length
  · have hc : i < c.length := h ▸ hi
    have hz : i < (List.zipWith (· ||| ·) b c).length := by simp; omega
    rw [byteAt_eq_getElem hz, byteAt_eq_getElem hi, byteAt_eq_getElem hc, List.getElem_zipWith]
  · have hz : (List.zipWith (· ||| ·) b c).length ≤ i := by simp; omega
    rw [byteAt_of_length_le hz, byteAt_of_length_le (by omega), byteAt_of_length_le (by omega)]
    rfl

theorem byteAt_modify {b : Bytes} {i : Nat} (f : UInt8 → UInt8) (h : i < b.length) (j : Nat) :
    byteAt (b.modify i f) j = if i = j then f (b.byteAt j) else b.byteAt j := by
  simp only [byteAt, List.getD_eq_getElem?_getD, List.getElem?_modify]
  split
  · subst j; simp [h]
  · simp

/-! ## Slices and overwriting -/

theorem length_slice {b : Bytes} {offset len : Nat} (h : offset + len ≤ b.length) :
    (b.slice offset len).length = len := by
  simp only [slice, List.length_take, List.length_drop]
  omega

theorem byteAt_slice (b : Bytes) (offset len i : Nat) :
    (b.slice offset len).byteAt i = if i < len then b.byteAt (offset + i) else 0 := by
  rw [slice, byteAt_take, byteAt_drop]

/-- Adjacent slices join. -/
theorem slice_add (b : Bytes) (offset m n : Nat) :
    b.slice offset (m + n) = b.slice offset m ++ b.slice (offset + m) n := by
  rw [slice, slice, slice, List.take_add, List.drop_drop]

/-- Overwriting replaces the bytes of the window and no other. -/
theorem byteAt_overwrite {b new : Bytes} {offset : Nat} (h : offset ≤ b.length) (i : Nat) :
    (b.overwrite offset new).byteAt i =
      if offset ≤ i ∧ i < offset + new.length then new.byteAt (i - offset) else b.byteAt i := by
  have ht : (b.take offset).length = offset := by simp [h]
  rw [overwrite, byteAt_append, byteAt_append, List.length_append, ht, byteAt_take, byteAt_drop]
  by_cases h1 : i < offset
  · rw [if_pos (by omega), if_pos h1, if_pos h1, if_neg (by omega)]
  · by_cases h2 : i < offset + new.length
    · rw [if_pos h2, if_neg h1, if_pos ⟨by omega, h2⟩]
    · rw [if_neg h2, if_neg (by omega)]
      congr 1
      omega

/-- A slice that has been overwritten from its start holds the new bytes, then what is left of the old ones. -/
theorem slice_overwrite {b new : Bytes} {offset len : Nat} (hn : new.length ≤ len) (h : offset + len ≤ b.length) :
    (b.overwrite offset new).slice offset len = new ++ (b.slice offset len).drop new.length := by
  have ho : (b.overwrite offset new).length = b.length := length_overwrite (by omega)
  apply eq_of_byteAt
  · rw [List.length_append, List.length_drop, length_slice h, length_slice (by omega)]
    omega
  · intro i hi
    rw [length_slice (by omega)] at hi
    rw [byteAt_slice, if_pos hi, byteAt_overwrite (by omega), byteAt_append, byteAt_drop, byteAt_slice]
    by_cases hl : i < new.length
    · rw [if_pos (by omega), if_pos hl, Nat.add_sub_cancel_left]
    · rw [if_neg (by omega), if_neg hl, if_pos (by omega)]
      congr 1
      omega

/-! ## Windows that go on with zeros -/

/-- The `len` bytes from `offset` on, zero past the end of the string. -/
def window (b : Bytes) (offset len : Nat) : Bytes := (List.range len).map fun i => b.byteAt (offset + i)

@[simp] theorem length_window (b : Bytes) (offset len : Nat) : (b.window offset len).length = len := by
  simp [window]

theorem byteAt_window (b : Bytes) (offset len i : Nat) :
    (b.window offset len).byteAt i = if i < len then b.byteAt (offset + i) else 0 := by
  by_cases h : i < len
  · rw [byteAt_eq_getElem (by simpa using h), if_pos h]
    simp [window]
  · rw [byteAt_of_length_le (by simpa using h), if_neg h]

/-- Adjacent windows join. -/
theorem window_append (b : Bytes) (offset m n : Nat) :
    b.window offset m ++ b.window (offset + m) n = b.window offset (m + n) := by
  apply eq_of_byteAt (by simp)
  intro i hi
  simp only [List.length_append, length_window] at hi
  rw [byteAt_append, byteAt_window, byteAt_window, byteAt_window, length_window]
  by_cases h : i < m
  · rw [if_pos h, if_pos h, if_pos hi]
  · rw [if_neg h, if_pos (by omega), if_pos hi]
    congr 1
    omega

/-- The start of a window is a window. -/
theorem take_window (b : Bytes) (offset n len : Nat) : (b.window offset len).take n = b.window offset (min n len) := by
  simp only [window, ← List.map_take, List.take_range]

/-- What fills a window of zeros is the window of what it is filled with. -/
theorem fill_zeros (len offset : Nat) (b : Bytes) : fill (zeros len) (b.drop offset) = b.window offset len := by
  apply eq_of_byteAt (by simp)
  intro i hi
  simp only [length_fill, length_zeros] at hi
  have hd : byteAt ((zeros len).drop (b.drop offset).length) (i - ((b.drop offset).take len).length) = 0 := by
    rw [byteAt_drop, byteAt_zeros]
  rw [fill, length_zeros, byteAt_append, hd, byteAt_take, byteAt_drop, byteAt_window, if_pos hi]
  split
  · rfl
  · rename_i h
    simp only [List.length_take, List.length_drop] at h
    rw [byteAt_of_length_le (by omega)]

end StorageCommands.Bytes
