import StorageCommands.Proofs.Layout.Checks
import StorageCommands.Proofs.Layout.WrittenBits

/-!
# Spellings of an integer

An integer of `n` whole bytes can be specified as a range of bytes, as a mask of ones, or, stored with the lowest byte
first, as a bit range. `Spec.Spells` is what these have in common: where the field ends, which integers it takes, which
one it reads and what writing one leaves behind. A mask sets its bits on top of the old ones, so it writes what the
others write only where the bytes are zero.

`spells_of_mem` says that each spelling is one, and `spellings_agree` that a table may use any of them. A byte string is
no integer, and the spellings differ in it: `encode_bytes_of_mem`.
-/

namespace StorageCommands.Layout

open Bytes

/-! ## Masks of ones -/

theorem bitLength_two_pow_sub_one (k : Nat) : bitLength (2 ^ k - 1) = k := by
  cases k with
  | zero => rfl
  | succ k =>
    have hpos := Nat.two_pow_pos k
    have hpow : 2 ^ (k + 1) = 2 ^ k + 2 ^ k := by omega
    have hne : 2 ^ (k + 1) - 1 ≠ 0 := by omega
    have hlog : (2 ^ (k + 1) - 1).log2 = k := (Nat.log2_eq_iff hne).2 (by omega)
    rw [bitLength, if_neg hne, hlog]

/-- A mask of ones spans the bytes that it fills. -/
theorem maskWidth_ones (n : Nat) : maskWidth (2 ^ (8 * n) - 1) = n := by
  rw [maskWidth, bitLength_two_pow_sub_one]
  omega

namespace Spec

/-! ## What the spellings have in common -/

/-- The field holds an integer of `n` bytes from `offset` on, stored in a byte order. -/
structure Spells (order : ByteOrder) (offset n : Nat) (s : Spec) : Prop where
  /-- It ends where the bytes end. -/
  stop : s.stop = offset + n
  /-- It takes the integers of so many bytes. -/
  maxValue : s.maxValue = some (widthMax (8 * n))
  /-- It reads the bytes. -/
  read : ∀ b : Bytes, s.read b = .uint (order.read (b.slice offset n))
  /-- It replaces the bytes, a mask where they are zero. -/
  write : ∀ (b : Bytes) (k : Nat), offset + n ≤ b.length →
    (s.isMask = true → ∀ i < n, b.byteAt (offset + i) = 0) →
    s.write (.uint k) b = b.overwrite offset (order.write n k)

theorem spells_bytes (order : ByteOrder) (offset n : Nat) :
    Spells order offset n (bytes offset n (Transform.ofOrder order)) := by
  cases order with
  | little | big => exact ⟨rfl, rfl, fun _ => rfl, fun _ _ _ _ => rfl⟩

theorem spells_bits (offset n : Nat) : Spells .little offset n (bits (8 * offset) (8 * n)) where
  stop := by
    simp only [stop]
    omega
  maxValue := rfl
  read b := congrArg Value.uint (readBits_eq_littleEndian b offset n)
  write b k h _ := by
    have hnew : (ofLittleEndian n k).length = n := length_ofLittleEndian n k
    apply eq_of_bitAt
    · rw [length_write _ (by simp only [stop]; omega), length_overwrite (by rw [ByteOrder.length_write]; exact h)]
    · intro pos _
      rw [write, bitAt_writeBits (by omega), ByteOrder.write, bitAt_overwrite (by omega), hnew, Nat.mul_add]
      by_cases hp : 8 * offset ≤ pos ∧ pos < 8 * offset + 8 * n
      · rw [if_pos hp, if_pos hp, bitAt_ofLittleEndian, decide_eq_true (by omega), Bool.true_and]
      · rw [if_neg hp, if_neg hp]

theorem covers_ones (order : ByteOrder) (offset n pos : Nat) :
    (mask offset (2 ^ (8 * n) - 1) order).covers pos = decide (8 * offset ≤ pos ∧ pos < 8 * (offset + n)) := by
  rw [covers, maskWidth_ones, Nat.testBit_two_pow_sub_one]
  by_cases hp : 8 * offset ≤ pos ∧ pos < 8 * (offset + n)
  · rw [decide_eq_true hp, decide_eq_true (order.position_lt (by omega)), Bool.true_and]
  · rw [decide_eq_false hp, Bool.false_and]

/-- On top of zero bytes a mask of ones puts the whole integer. -/
theorem write_ones (order : ByteOrder) {b : Bytes} {offset n : Nat} (k : Nat) (hn : 0 < n) (h : offset + n ≤ b.length)
    (hz : ∀ i < n, b.byteAt (offset + i) = 0) :
    (mask offset (2 ^ (8 * n) - 1) order).write (.uint k) b = b.overwrite offset (order.write n k) := by
  have hstop : (mask offset (2 ^ (8 * n) - 1) order).stop ≤ b.length := by
    rw [stop, maskWidth_ones]
    exact h
  apply eq_of_bitAt
  · rw [length_write _ hstop, length_overwrite (by rw [ByteOrder.length_write]; exact h)]
  · intro pos _
    rw [bitAt_write _ hstop, bitAt_overwrite (by omega), ByteOrder.length_write, writeBit, writes, covers_ones,
      Bool.cond_decide]
    by_cases hp : 8 * offset ≤ pos ∧ pos < 8 * (offset + n)
    · have hold : b.bitAt pos = false := by
        have hbyte := hz (pos / 8 - offset) (by omega)
        rw [Nat.add_sub_cancel' (by omega)] at hbyte
        rw [bitAt, hbyte]
        exact Nat.zero_testBit _
      rw [if_pos hp, if_pos hp, hold, Bool.and_false, Bool.false_or, valueBit, maskWidth_ones,
        trailingZeros_ones (by omega), Nat.shiftLeft_zero, order.bitAt_write k (by omega)]
    · rw [if_neg hp, if_neg hp]

theorem spells_ones (order : ByteOrder) (offset : Nat) {n : Nat} (hn : 0 < n) :
    Spells order offset n (mask offset (2 ^ (8 * n) - 1) order) where
  stop := by rw [stop, maskWidth_ones]
  maxValue := by
    rw [maxValue, trailingZeros_ones (by omega), Nat.shiftRight_zero, widthMax, Nat.one_shiftLeft]
  read b := by
    rw [read, maskWidth_ones, trailingZeros_ones (by omega), Nat.shiftRight_zero, Nat.and_two_pow_sub_one_eq_mod,
      Nat.mod_eq_of_lt (lt_of_le_widthMax (read_slice_le order b offset n))]
  write _ k h hz := write_ones order k hn h (hz rfl)

/-! ## The spellings -/

/-- The specifications of an integer of `n` bytes from `offset` on, as they are built. -/
def spellings (offset n : Nat) : ByteOrder → List (Except Fault Spec)
  | .little => [range offset n >>= withOrder .little, bitRange (8 * offset) (8 * n),
      masked offset (2 ^ (8 * n) - 1) >>= withOrder .little]
  | .big => [range offset n >>= withOrder .big, masked offset (2 ^ (8 * n) - 1)]

/-- The fields that these are. -/
def spelled (offset n : Nat) : ByteOrder → List Spec
  | .little => [bytes offset n .littleEndian, bits (8 * offset) (8 * n), mask offset (2 ^ (8 * n) - 1) .little]
  | .big => [bytes offset n .bigEndian, mask offset (2 ^ (8 * n) - 1) .big]

theorem spellings_eq {n : Nat} (hn : 0 < n) (h8 : n ≤ 8) (offset : Nat) (order : ByteOrder) :
    spellings offset n order = (spelled offset n order).map .ok := by
  have hmask : masked offset (2 ^ (8 * n) - 1) = .ok (mask offset (2 ^ (8 * n) - 1) .big) := by
    have hpow : 2 ^ 1 ≤ 2 ^ (8 * n) := Nat.pow_le_pow_right Nat.two_pos (by omega)
    exact if_neg (by omega)
  have hrange : ∀ order, (range offset n >>= withOrder order) = .ok (bytes offset n (Transform.ofOrder order)) :=
    fun _ => if_pos h8
  have hbits : bitRange (8 * offset) (8 * n) = .ok (bits (8 * offset) (8 * n)) := if_pos (by omega)
  cases order with
  | little =>
    rw [spellings, hmask, hrange, hbits]
    rfl
  | big =>
    rw [spellings, hmask, hrange]
    rfl

theorem spells_of_mem {order : ByteOrder} {offset n : Nat} (hn : 0 < n) {s : Spec} (hs : s ∈ spelled offset n order) :
    Spells order offset n s := by
  cases order with
  | little =>
    simp only [spelled, List.mem_cons, List.not_mem_nil, or_false] at hs
    rcases hs with rfl | rfl | rfl
    · exact spells_bytes .little offset n
    · exact spells_bits offset n
    · exact spells_ones .little offset hn
  | big =>
    simp only [spelled, List.mem_cons, List.not_mem_nil, or_false] at hs
    rcases hs with rfl | rfl
    · exact spells_bytes .big offset n
    · exact spells_ones .big offset hn

/-! ## What agrees -/

variable {order : ByteOrder} {offset n : Nat} {s s' : Spec}

/-- Spellings of one integer take the same integers, and refuse the others for the same reason. -/
theorem Spells.check_eq (h : Spells order offset n s) (h' : Spells order offset n s') (name : String) (k len : Nat) :
    s.check name (.uint k) len = s'.check name (.uint k) len := by
  simp only [check, checkBounds, h.stop, h'.stop, h.maxValue, h'.maxValue, Table.accepts_of_maxValue h.maxValue,
    Table.accepts_of_maxValue h'.maxValue]

/-- They read the same. -/
theorem Spells.decode_eq (h : Spells order offset n s) (h' : Spells order offset n s') (name : String) (b : Bytes) :
    s.decode name b = s'.decode name b := by
  simp only [decode, checkBounds, h.stop, h'.stop, h.read, h'.read]

/-- They write the same, a mask where the bytes are zero. -/
theorem Spells.write_eq (h : Spells order offset n s) (h' : Spells order offset n s') {b : Bytes} (k : Nat)
    (hl : offset + n ≤ b.length)
    (hz : s.isMask = true ∨ s'.isMask = true → ∀ i < n, b.byteAt (offset + i) = 0) :
    s.write (.uint k) b = s'.write (.uint k) b := by
  rw [h.write b k hl fun hm => hz (.inl hm), h'.write b k hl fun hm => hz (.inr hm)]

end Spec

namespace Table

variable {ι : Type} [DecidableEq ι] [Named ι]

/-- Encoding one value checks it and writes it. -/
theorem encode_one {t : Table ι} {id : ι} {s : Spec} (hs : t.spec? id = some s) (v : Value) (b : Bytes) :
    t.encode ⟨[(id, v)]⟩ b = (s.check (Named.name id) v b.length).map fun _ => s.write v b := by
  cases hc : s.check (Named.name id) v b.length with
  | error e => exact encode_eq_error_of_check [] (List.forall_mem_nil _) hs hc
  | ok u => exact encode_singleton hs hc

theorem encode_one_eq_error_iff {t : Table ι} {id : ι} {s : Spec} (hs : t.spec? id = some s) {v : Value} {b : Bytes}
    {err : Error} : t.encode ⟨[(id, v)]⟩ b = .error err ↔ s.check (Named.name id) v b.length = .error err := by
  rw [encode_one hs]
  cases s.check (Named.name id) v b.length with
  | error e =>
    constructor
    · intro h
      cases h
      rfl
    · intro h
      cases h
      rfl
  | ok u =>
    constructor
    · intro h
      cases h
    · intro h
      cases h

/-- **Of the spellings only the range of bytes takes a byte string**, of which it copies as much as it has room for. -/
theorem encode_bytes_of_mem {t : Table ι} {id : ι} {s : Spec} {order : ByteOrder} {offset n : Nat} {b : Bytes}
    (hn : 0 < n) (hmem : s ∈ Spec.spelled offset n order) (hs : t.spec? id = some s) (hl : offset + n ≤ b.length)
    (new : Bytes) : t.encode ⟨[(id, .bytes new)]⟩ b =
      if s = .bytes offset n (Transform.ofOrder order) then .ok (Spec.copyInto b offset n new)
      else .error (.typeMismatch (Named.name id)) := by
  have hbounds : s.checkBounds (Named.name id) b.length = .ok () := by
    rw [Spec.checkBounds, (Spec.spells_of_mem hn hmem).stop, if_neg (Nat.not_lt.2 hl)]
  rw [encode_one hs, Spec.check, hbounds]
  cases order with
  | little =>
    simp only [Spec.spelled, List.mem_cons, List.not_mem_nil, or_false] at hmem
    rcases hmem with rfl | rfl | rfl
    · exact (if_pos rfl).symm
    · exact (if_neg (by simp)).symm
    · exact (if_neg (by simp)).symm
  | big =>
    simp only [Spec.spelled, List.mem_cons, List.not_mem_nil, or_false] at hmem
    rcases hmem with rfl | rfl
    · exact (if_pos rfl).symm
    · exact (if_neg (by simp)).symm

/-- **The spellings of an integer agree**, for every offset, every length from 1 to 8 bytes and both byte orders.

Each of them can be built. They end at the same byte and have the same largest integer. Whichever of them a table uses,
the field is decoded to the integer that the bytes store, and not decoded for the same reason. The same integers are
stored in it, and the others refused for the same reason. Storing one leaves the same bytes in every buffer, and for a
mask in every buffer with zero bytes there. Byte strings are another matter (`encode_bytes_of_mem`). -/
theorem spellings_agree (offset n : Nat) (hn : 1 ≤ n) (h8 : n ≤ 8) (order : ByteOrder) :
    Spec.spellings offset n order = (Spec.spelled offset n order).map .ok
      ∧ ∀ s ∈ Spec.spelled offset n order, ∀ s' ∈ Spec.spelled offset n order,
        s.stop = s'.stop ∧ s.maxValue = s'.maxValue
          ∧ ∀ (t t' : Table ι) (id : ι) (b : Bytes), t.spec? id = some s → t'.spec? id = some s' →
            t.decodeOne id b = t'.decodeOne id b
              ∧ (offset + n ≤ b.length → t.decodeOne id b = .ok (some (.uint (order.read (b.slice offset n)))))
              ∧ ∀ k, (∀ err,
                  t.encode ⟨[(id, .uint k)]⟩ b = .error err ↔ t'.encode ⟨[(id, .uint k)]⟩ b = .error err)
                ∧ ((s.isMask = true ∨ s'.isMask = true → ∀ i < n, b.byteAt (offset + i) = 0) →
                  t.encode ⟨[(id, .uint k)]⟩ b = t'.encode ⟨[(id, .uint k)]⟩ b) := by
  refine ⟨Spec.spellings_eq hn h8 offset order, fun s hs s' hs' => ?_⟩
  have h := Spec.spells_of_mem hn hs
  have h' := Spec.spells_of_mem hn hs'
  refine ⟨h.stop.trans h'.stop.symm, h.maxValue.trans h'.maxValue.symm, fun t t' id b ht ht' => ?_⟩
  refine ⟨?_, fun hl => ?_, fun k => ?_⟩
  · simp only [decodeOne, ht, ht', h.decode_eq h']
  · exact (decodeOne_eq_ok_iff ht).2 ⟨by rw [h.stop]; exact hl, h.read b⟩
  · refine ⟨fun err => ?_, fun hz => ?_⟩
    · rw [encode_one_eq_error_iff ht, encode_one_eq_error_iff ht', h.check_eq h']
    · rw [encode_one ht, encode_one ht', h.check_eq h']
      cases hc : s'.check (Named.name id) (.uint k) b.length with
      | error e => rfl
      | ok u =>
        have hl : offset + n ≤ b.length := by
          rw [← h'.stop]
          exact (Spec.check_eq_ok_iff.1 hc).1
        exact congrArg Except.ok (h.write_eq h' k hl hz)

/-- Eight bytes behind the first one, in all spellings. -/
theorem spellings_agree_wide : (let b : Bytes := [9, 1, 2, 3, 4, 5, 6, 7, 8]
    let range : Table String := ⟨[("x", .bytes 1 8 .littleEndian)]⟩
    let bits : Table String := ⟨[("x", .bits 8 64)]⟩
    let mask : Table String := ⟨[("x", .mask 1 0xFFFFFFFFFFFFFFFF .little)]⟩
    range.decodeOne "x" b = .ok (some (.uint 0x0807060504030201)) ∧ mask.decodeOne "x" b = range.decodeOne "x" b
      ∧ bits.encode ⟨[("x", .uint 0x8000000000000001)]⟩ b = range.encode ⟨[("x", .uint 0x8000000000000001)]⟩ b
      ∧ mask.encode ⟨[("x", .uint 0x8000000000000001)]⟩ (zeros 9)
        = range.encode ⟨[("x", .uint 0x8000000000000001)]⟩ (zeros 9)) := by
  intro b range bits mask
  obtain ⟨-, hall⟩ := spellings_agree (ι := String) 1 8 (by decide) (by decide) .little
  obtain ⟨-, -, hrange⟩ := hall (.mask 1 (2 ^ (8 * 8) - 1) .little) (by decide) (.bytes 1 8 .littleEndian) (by decide)
  obtain ⟨-, -, hbits⟩ := hall (.bits (8 * 1) (8 * 8)) (by decide) (.bytes 1 8 .littleEndian) (by decide)
  obtain ⟨hsame, hread, -⟩ := hrange mask range "x" b rfl rfl
  obtain ⟨-, -, hzero⟩ := hrange mask range "x" (zeros 9) rfl rfl
  obtain ⟨-, -, hencode⟩ := hbits bits range "x" b rfl rfl
  have hvalue : ByteOrder.little.read (b.slice 1 8) = 0x0807060504030201 := by decide
  refine ⟨?_, hsame, (hencode _).2 (by decide), (hzero _).2 fun _ => by decide⟩
  rw [← hsame, hread (by decide), hvalue]

end Table

end StorageCommands.Layout
