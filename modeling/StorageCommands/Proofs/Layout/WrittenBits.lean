import StorageCommands.Proofs.Layout.Stored

/-!
# The bits that are written

A field that is given a value writes some bits of the buffer (`Spec.writes`): all that it covers, but of a byte string
only as many bytes as there are. What it leaves at each position depends on the bit that was there and on nothing else
(`Spec.writeBit`): a mask sets bits on top of the old ones, the other fields replace them. `bitAt_write` says so of
every field, value and buffer, zero or not.

`read_over_write` reads off what encoding one value does to any buffer: what the field holds then, and that nothing else
is changed.
-/

namespace StorageCommands.Layout

open Bytes

/-- The bytes that a value has to copy, if it is no integer. -/
def Value.content? : Value → Option Bytes
  | uint _ => none
  | bytes b => some b
  | text t => some (Utf8.encode t)

namespace Spec

/-! ## One bit -/

/-- Whether the field sets bits on top of those that are there. -/
def isMask : Spec → Bool
  | mask .. => true
  | bytes .. | bits .. => false

/-- Whether a bit belongs to the bytes that are copied to the start of a range. -/
def copies (offset len : Nat) (new : Bytes) (pos : Nat) : Bool :=
  decide (8 * offset ≤ pos ∧ pos < 8 * (offset + min len new.length))

/-- Whether a bit of the buffer is written with a value. -/
def writes : Spec → Value → Nat → Bool
  | s, .uint _, pos => s.covers pos
  | bytes offset len _, .bytes new, pos => copies offset len new pos
  | bytes offset len _, .text t, pos => copies offset len (Utf8.encode t) pos
  | mask .., .bytes _, _ | mask .., .text _, _ | bits .., .bytes _, _ | bits .., .text _, _ => false

/-- The bit that a value has for a position that is written. -/
def valueBit : Spec → Value → Nat → Bool
  | mask offset m order, .uint n, pos =>
    (n <<< trailingZeros m).testBit (order.position (maskWidth m) (pos - 8 * offset))
  | bytes offset len transform, .uint n, pos =>
    n.testBit ((transform.order?.getD .little).position len (pos - 8 * offset))
  | bytes offset _ _, .bytes new, pos => new.bitAt (pos - 8 * offset)
  | bytes offset _ _, .text t, pos => (Utf8.encode t).bitAt (pos - 8 * offset)
  | bits offset _, .uint n, pos => n.testBit (pos - offset)
  | mask .., .bytes _, _ | mask .., .text _, _ | bits .., .bytes _, _ | bits .., .text _, _ => false

/-- The bit that is left at a position by storing a value, where there was an old one. -/
def writeBit (s : Spec) (v : Value) (pos : Nat) (old : Bool) : Bool :=
  bif s.writes v pos then (s.isMask && old) || s.valueBit v pos else old

theorem writeBit_of_not_writes {s : Spec} {v : Value} {pos : Nat} (h : s.writes v pos = false) (old : Bool) :
    s.writeBit v pos old = old := by
  rw [writeBit, h, cond_false]

/-- Only bits of the field are written. -/
theorem covers_of_writes {s : Spec} {v : Value} {pos : Nat} (h : s.writes v pos = true) : s.covers pos = true := by
  cases v with
  | uint n => exact h
  | bytes _ | text _ =>
    cases s with
    | mask _ _ _ | bits _ _ => cases h
    | bytes offset len transform =>
      simp only [writes, copies, decide_eq_true_eq] at h
      simp only [covers, decide_eq_true_eq]
      omega

theorem bitAt_copyInto_copies {b new : Bytes} {offset len : Nat} (h : offset + len ≤ b.length) (pos : Nat) :
    (copyInto b offset len new).bitAt pos =
      bif copies offset len new pos then new.bitAt (pos - 8 * offset) else b.bitAt pos := by
  have htake : new.take len = new.slice 0 len := rfl
  rw [copyInto, bitAt_overwrite (by omega), List.length_take, copies, Bool.cond_decide]
  by_cases hp : 8 * offset ≤ pos ∧ pos < 8 * (offset + min len new.length)
  · rw [if_pos hp, if_pos hp, htake, bitAt_slice, if_pos (by omega), Nat.mul_zero, Nat.zero_add]
  · rw [if_neg hp, if_neg hp]

/-- **What is written**, bit by bit, whatever was there before. -/
theorem bitAt_write {s : Spec} {b : Bytes} (v : Value) (h : s.stop ≤ b.length) (pos : Nat) :
    (s.write v b).bitAt pos = s.writeBit v pos (b.bitAt pos) := by
  cases s with
  | mask offset m order =>
    cases v with
    | uint n =>
      cases hcovers : (mask offset m order).covers pos with
      | false =>
        have hwrites : (mask offset m order).writes (.uint n) pos = false := hcovers
        rw [bitAt_write_of_not_covers _ h hcovers, writeBit_of_not_writes hwrites]
      | true =>
        have hwrites : (mask offset m order).writes (.uint n) pos = true := hcovers
        rw [writeBit, hwrites, cond_true]
        simp only [covers, Bool.and_eq_true, decide_eq_true_eq] at hcovers
        rw [bitAt_write_mask n h hcovers.1, Nat.testBit_and, hcovers.2, Bool.and_true]
        rfl
    | bytes _ | text _ => rfl
  | bytes offset len transform =>
    simp only [stop] at h
    cases v with
    | uint n =>
      rw [write, bitAt_overwrite (by omega), ByteOrder.length_write, writeBit, writes, covers, Bool.cond_decide]
      by_cases hp : 8 * offset ≤ pos ∧ pos < 8 * (offset + len)
      · rw [if_pos hp, if_pos hp, ByteOrder.bitAt_write _ _ (by omega)]
        rfl
      · rw [if_neg hp, if_neg hp]
    | bytes new => exact bitAt_copyInto_copies h pos
    | text t => exact bitAt_copyInto_copies h pos
  | bits offset width =>
    simp only [stop] at h
    cases v with
    | uint n =>
      rw [write, bitAt_writeBits (by omega), writeBit, writes, covers, Bool.cond_decide]
      rfl
    | bytes _ | text _ => rfl

/-! ## One field -/

/-- A mask that was given an integer holds what it held before, with what it keeps of the integer on top. -/
theorem read_write_mask_over {b : Bytes} {offset m n : Nat} {order : ByteOrder}
    (h : offset + maskWidth m ≤ b.length) {old : Nat} (hold : (mask offset m order).read b = .uint old) :
    (mask offset m order).read ((mask offset m order).write (.uint n) b)
      = .uint (old ||| (mask offset m order).kept n) := by
  have hl : offset + maskWidth m ≤ ((mask offset m order).write (.uint n) b).length := by
    rw [length_write (s := mask offset m order) _ h]
    exact h
  cases hold
  rw [read, Value.uint.injEq]
  apply Nat.eq_of_testBit_eq
  intro i
  rw [Nat.testBit_or, Nat.testBit_shiftRight, Nat.testBit_shiftRight, testBit_masked order hl, testBit_masked order h,
    kept, Nat.testBit_and, Nat.testBit_shiftRight]
  cases hm : m.testBit (trailingZeros m + i) with
  | false => simp only [Bool.and_false, Bool.or_false]
  | true =>
    -- the bit of the buffer that holds this bit of the mask
    have hi := lt_of_testBit_mask hm
    have hwrites : (mask offset m order).writes (.uint n) _ = true := covers_mask hm
    rw [bitAt_write (s := mask offset m order) _ h, writeBit, hwrites, cond_true, isMask, valueBit,
      Nat.add_sub_cancel_left, order.position_position hi, Nat.testBit_shiftLeft,
      decide_eq_true (Nat.le_add_right (trailingZeros m) i), Nat.add_sub_cancel_left]
    simp only [Bool.true_and, Bool.and_true]

/-- Another integer field holds the integer that it was given. -/
theorem read_write_uint {s : Spec} {b : Bytes} {n max : Nat} (hs : s.isMask = false) (h : s.stop ≤ b.length)
    (hmax : s.maxValue = some max) (hn : n ≤ max) : s.read (s.write (.uint n) b) = .uint n := by
  cases s with
  | mask _ _ _ => cases hs
  | bytes offset len transform =>
    cases transform with
    | raw | text => cases hmax
    | littleEndian | bigEndian =>
      cases hmax
      exact congrArg Value.uint (read_write_integer _ h hn)
  | bits offset width =>
    cases hmax
    exact read_write_bits h hn

/-- A range of bytes holds the bytes that were copied, and behind them those that it held before. -/
theorem slice_copyInto {b new : Bytes} {offset len : Nat} (h : offset + len ≤ b.length) :
    (copyInto b offset len new).slice offset len
      = new.take (min len new.length) ++ (b.slice offset len).drop (min len new.length) := by
  have hle : (new.take len).length ≤ len := List.length_take_le ..
  rw [copyInto, slice_overwrite hle h, List.length_take, ← List.take_eq_take_min]

/-- A field that takes an integer holds integers. -/
theorem exists_maxValue {s : Spec} {n : Nat} (h : s.accepts (.uint n) = true) : ∃ max, s.maxValue = some max := by
  cases s with
  | mask _ _ _ | bits _ _ => exact ⟨_, rfl⟩
  | bytes offset len transform =>
    cases transform with
    | raw | text => cases h
    | littleEndian | bigEndian => exact ⟨_, rfl⟩

end Spec

namespace Table

variable {ι : Type} [DecidableEq ι] [Named ι]

/-- Encoding one value that passes its check writes it. -/
theorem encode_singleton {t : Table ι} {id : ι} {s : Spec} {v : Value} {b : Bytes} (hs : t.spec? id = some s)
    (hv : s.check (Named.name id) v b.length = .ok ()) : t.encode ⟨[(id, v)]⟩ b = .ok (s.write v b) := by
  refine encode_eq_ok_iff.2 ⟨fun e he s' hs' => ?_, by simp [located, hs]⟩
  cases List.mem_singleton.1 he
  cases hs.symm.trans hs'
  exact hv

/-- **Encoding one value into any buffer.** A value that passes its check is stored, in a buffer of the same length.

An integer field holds the integer then, and a mask what it held before with what it keeps of the integer on top. A
range of bytes holds the start of the byte string or text, as far as the range and the string reach, and behind that the
bytes that it held before. All bits that are not written stay: for a mask those that it does not select, for a byte
string those behind its end. So every field that covers none of the written bits is decoded as before. -/
theorem read_over_write (t : Table ι) (id : ι) (s : Spec) (v : Value) (b : Bytes) (hs : t.spec? id = some s)
    (hv : s.check (Named.name id) v b.length = .ok ()) :
    ∃ c, t.encode ⟨[(id, v)]⟩ b = .ok c ∧ c.length = b.length
      ∧ (∀ n, v = .uint n → s.isMask = false → t.decodeOne id c = .ok (some (.uint n)))
      ∧ (∀ n, v = .uint n → s.isMask = true → ∃ old, t.decodeOne id b = .ok (some (.uint old))
          ∧ t.decodeOne id c = .ok (some (.uint (old ||| s.kept n))))
      ∧ (∀ new, v.content? = some new → ∃ offset len transform, s = .bytes offset len transform
          ∧ c.slice offset len = new.take (min len new.length) ++ (b.slice offset len).drop (min len new.length))
      ∧ (∀ pos, s.writes v pos = false → c.bitAt pos = b.bitAt pos)
      ∧ ∀ (s' : Spec) (name : String), (∀ pos, s'.covers pos = true → s.writes v pos = false) →
          s'.decode name c = s'.decode name b := by
  obtain ⟨hl, haccepts, hle⟩ := Spec.check_eq_ok_iff.1 hv
  have hlength := Spec.length_write v hl
  have hl' : s.stop ≤ (s.write v b).length := by rw [hlength]; exact hl
  have hsame : ∀ pos, s.writes v pos = false → (s.write v b).bitAt pos = b.bitAt pos := fun pos hp => by
    rw [Spec.bitAt_write v hl, Spec.writeBit_of_not_writes hp]
  refine ⟨s.write v b, encode_singleton hs hv, hlength, ?_, ?_, ?_, hsame, ?_⟩
  · rintro n rfl hmask
    obtain ⟨max, hmax⟩ := Spec.exists_maxValue haccepts
    exact (decodeOne_eq_ok_iff hs).2 ⟨hl', Spec.read_write_uint hmask hl hmax (hle n rfl max hmax)⟩
  · rintro n rfl hmask
    cases s with
    | bytes _ _ _ | bits _ _ => cases hmask
    | mask offset m order =>
      exact ⟨_, (decodeOne_eq_ok_iff hs).2 ⟨hl, rfl⟩,
        (decodeOne_eq_ok_iff hs).2 ⟨hl', Spec.read_write_mask_over hl rfl⟩⟩
  · intro new hnew
    cases s with
    | mask _ _ _ | bits _ _ => cases v <;> cases hnew <;> cases haccepts
    | bytes offset len transform =>
      refine ⟨offset, len, transform, rfl, ?_⟩
      cases v with
      | uint _ => cases hnew
      | bytes _ | text _ => cases hnew; exact Spec.slice_copyInto hl
  · intro s' name hother
    simp only [Spec.decode, Spec.checkBounds, hlength]
    by_cases hs' : b.length < s'.stop
    · rw [if_pos hs']
      rfl
    · have hread : s'.read (s.write v b) = s'.read b :=
        Spec.read_congr (by rw [hlength]; omega) (by omega) fun pos hp => hsame pos (hother pos hp)
      rw [hread]

/-- A mask with holes, a text and a bit range that straddles two bytes. -/
def mixedTable : Table String :=
  ⟨[("odd", .mask 0 0x0A05 .little), ("name", .bytes 2 4 .text), ("bits", .bits 52 9)]⟩

/-- In a buffer of other bits, the mask adds one to those that are there, the text keeps the end of a longer one, and
the bit range is replaced. -/
theorem read_over_write_mixed : (let b : Bytes := [0xF1, 0x02, 0x41, 0x42, 0x43, 0x44, 0xFF, 0xFF]
    (∃ c, mixedTable.encode ⟨[("odd", .uint 0x806)]⟩ b = .ok c ∧ mixedTable.decodeOne "odd" b = .ok (some (.uint 0x201))
        ∧ mixedTable.decodeOne "odd" c = .ok (some (.uint 0xA05)))
      ∧ (∃ c, mixedTable.encode ⟨[("name", .text "é")]⟩ b = .ok c ∧ c.slice 2 4 = [0xC3, 0xA9, 0x43, 0x44])
      ∧ ∃ c, mixedTable.encode ⟨[("bits", .uint 0xA5)]⟩ b = .ok c
        ∧ mixedTable.decodeOne "bits" c = .ok (some (.uint 0xA5))
        ∧ mixedTable.decodeOne "name" c = .ok (some (.text "ABCD"))) := by
  intro b
  refine ⟨?_, ?_, ?_⟩
  · obtain ⟨c, hc, -, -, hmask, -⟩ := read_over_write mixedTable "odd" (.mask 0 0x0A05 .little) (.uint 0x806) b rfl
      (by decide +kernel)
    obtain ⟨old, hold, hnew⟩ := hmask _ rfl rfl
    have hread : mixedTable.decodeOne "odd" b = .ok (some (.uint 0x201)) := by decide +kernel
    cases hread.symm.trans hold
    exact ⟨c, hc, hread, hnew.trans (by decide +kernel)⟩
  · obtain ⟨c, hc, -, -, -, hbytes, -⟩ := read_over_write mixedTable "name" (.bytes 2 4 .text) (.text "é") b rfl
      (by decide +kernel)
    obtain ⟨offset, len, transform, hspec, hslice⟩ := hbytes _ rfl
    cases hspec
    exact ⟨c, hc, hslice.trans (by decide +kernel)⟩
  · obtain ⟨c, hc, -, hint, -, -, -, hframe⟩ := read_over_write mixedTable "bits" (.bits 52 9) (.uint 0xA5) b rfl
      (by decide +kernel)
    have hdisjoint : (Spec.bytes 2 4 .text).Disjoint (.bits 52 9) := by decide +kernel
    refine ⟨c, hc, hint _ rfl rfl, ?_⟩
    have hname := hframe (.bytes 2 4 .text) "name" hdisjoint
    have hread : mixedTable.decodeOne "name" b = .ok (some (.text "ABCD")) := by decide +kernel
    rw [← hread]
    exact congrArg (Except.map some) hname

end Table

end StorageCommands.Layout
