import StorageCommands.Proofs.Layout.Integers

/-!
# What a field keeps of an integer

The check that encoding makes only asks whether an integer exceeds the largest one of its field. A mask with holes has
room for fewer: the bits of the integer that fall into a hole are dropped (`Spec.kept`).

- `integer_stored`: encoding an integer that is not too large makes the field read what it keeps of it. An integer that
  is too large is refused, and no buffer holds it.
- `plain_iff`: the fields that keep every integer they accept are those without holes.
- `accepted_integer_lost`: a field with a hole accepts an integer and gives back another one.
-/

namespace StorageCommands.Layout

open Bytes

namespace Spec

/-- What the field keeps of an integer. -/
def kept : Spec → Nat → Nat
  | mask _ m _, n => n &&& (m >>> trailingZeros m)
  | bytes .., n | bits .., n => n

/-! ## Masks -/

/-- A mask is its shifted form moved back. -/
theorem shiftRight_shiftLeft_trailingZeros (m : Nat) : (m >>> trailingZeros m) <<< trailingZeros m = m := by
  apply Nat.eq_of_testBit_eq
  intro i
  rw [Nat.testBit_shiftLeft, Nat.testBit_shiftRight]
  by_cases hi : trailingZeros m ≤ i
  · rw [decide_eq_true hi, Bool.true_and, Nat.add_sub_cancel' hi]
  · cases hm : m.testBit i with
    | false => simp [hi]
    | true => exact absurd (trailingZeros_le hm) hi

/-- What a mask selects of a shifted integer. -/
theorem shiftLeft_and_trailingZeros (m n : Nat) :
    (n <<< trailingZeros m) &&& m = (n &&& (m >>> trailingZeros m)) <<< trailingZeros m := by
  calc (n <<< trailingZeros m) &&& m
    _ = (n <<< trailingZeros m) &&& ((m >>> trailingZeros m) <<< trailingZeros m) := by
      rw [shiftRight_shiftLeft_trailingZeros]
    _ = (n &&& (m >>> trailingZeros m)) <<< trailingZeros m := (Nat.shiftLeft_and_distrib ..).symm

/-! ## What is written -/

/-- Writing an integer writes what the field keeps of it. -/
theorem write_kept (s : Spec) (n : Nat) (b : Bytes) : s.write (.uint (s.kept n)) b = s.write (.uint n) b := by
  cases s with
  | mask offset m order =>
    have hsame : (kept (mask offset m order) n <<< trailingZeros m) &&& m = (n <<< trailingZeros m) &&& m := by
      rw [kept, shiftLeft_and_trailingZeros, Nat.and_assoc, Nat.and_self, ← shiftLeft_and_trailingZeros]
    simp only [write, hsame]
  | bytes _ _ _ | bits _ _ => rfl

theorem kept_kept (s : Spec) (n : Nat) : s.kept (s.kept n) = s.kept n := by
  cases s with
  | mask offset m order => rw [kept, kept, Nat.and_assoc, Nat.and_self]
  | bytes _ _ _ | bits _ _ => rfl

theorem kept_le (s : Spec) (n : Nat) : s.kept n ≤ n := by
  cases s with
  | mask offset m order => exact Nat.and_le_left
  | bytes _ _ _ | bits _ _ => exact Nat.le_refl n

/-- The integers that a field gives back are those that are not too large and kept. -/
theorem canonical_uint_iff {s : Spec} {max n : Nat} (hmax : s.maxValue = some max) :
    s.Canonical (.uint n) ↔ n ≤ max ∧ s.kept n = n := by
  cases s with
  | mask offset m order =>
    cases hmax
    rw [Canonical, kept, shiftLeft_and_trailingZeros]
    constructor
    · intro h
      have hkept : n &&& (m >>> trailingZeros m) = n := by
        have := congrArg (· >>> trailingZeros m) h
        simpa only [Nat.shiftLeft_shiftRight] using this
      exact ⟨by rw [← hkept]; exact Nat.and_le_right, hkept⟩
    · intro h
      rw [h.2]
  | bytes offset len transform =>
    cases transform with
    | raw | text => cases hmax
    | littleEndian | bigEndian =>
      cases hmax
      exact ⟨fun h => ⟨h, rfl⟩, And.left⟩
  | bits offset width =>
    cases hmax
    exact ⟨fun h => ⟨h, rfl⟩, And.left⟩

/-! ## What is read -/

theorem le_widthMax_of_lt {n bits : Nat} (h : n < 2 ^ bits) : n ≤ widthMax bits := by
  rw [widthMax, Nat.one_shiftLeft]
  omega

/-- An integer read from a range of bytes has no more digits than the range. -/
theorem read_slice_le (order : ByteOrder) (b : Bytes) (offset len : Nat) :
    order.read (b.slice offset len) ≤ widthMax (8 * len) := by
  apply le_widthMax_of_lt
  apply Nat.lt_of_lt_of_le (m := 2 ^ (8 * (b.slice offset len).length))
  · apply Nat.lt_pow_two_of_testBit
    intro i hi
    rw [order.testBit_read, decide_eq_false (Nat.not_lt.2 hi), Bool.false_and]
  · apply Nat.pow_le_pow_right Nat.two_pos
    rw [slice, List.length_take]
    omega

/-- **A field gives back no other integers**, whatever the buffer. -/
theorem canonical_of_read {s : Spec} {b : Bytes} {n max : Nat} (hmax : s.maxValue = some max)
    (h : s.read b = .uint n) : s.Canonical (.uint n) := by
  rw [canonical_uint_iff hmax]
  cases s with
  | mask offset m order =>
    cases hmax
    rw [read, Nat.shiftRight_and_distrib] at h
    cases h
    exact ⟨Nat.and_le_right, by rw [kept, Nat.and_assoc, Nat.and_self]⟩
  | bytes offset len transform =>
    cases transform with
    | raw | text => cases hmax
    | littleEndian | bigEndian =>
      cases hmax
      cases h
      exact ⟨read_slice_le _ b offset len, rfl⟩
  | bits offset width =>
    cases hmax
    cases h
    refine ⟨le_widthMax_of_lt (Nat.lt_pow_two_of_testBit _ fun i hi => ?_), rfl⟩
    rw [testBit_readBits, decide_eq_false (Nat.not_lt.2 hi), Bool.false_and]

/-! ## Fields without holes -/

/-- An integer that contains every smaller one is a mask of ones. -/
theorem eq_widthMax_of_and {k : Nat} (h : ∀ n ≤ k, n &&& k = n) : k = widthMax (bitLength k) := by
  by_cases hk : k = 0
  · subst hk
    rfl
  · have hlog : 2 ^ k.log2 ≤ k := Nat.log2_self_le hk
    have hlt : k < 2 ^ (k.log2 + 1) := Nat.lt_log2_self
    -- the largest integer with fewer digits is in it, and so is its own highest digit
    have hlow := h (2 ^ k.log2 - 1) (by omega)
    rw [Nat.and_comm, Nat.and_two_pow_sub_one_eq_mod] at hlow
    have hdiv := Nat.div_add_mod k (2 ^ k.log2)
    have hone : k / 2 ^ k.log2 = 1 := by
      apply Nat.le_antisymm
      · exact Nat.lt_succ_iff.1 (Nat.div_lt_of_lt_mul (by rw [← Nat.pow_succ]; exact hlt))
      · exact Nat.div_pos hlog (Nat.two_pow_pos _)
    rw [hone, hlow] at hdiv
    have hpow : 2 ^ (k.log2 + 1) = 2 * 2 ^ k.log2 := Nat.pow_succ'
    rw [bitLength, if_neg hk, widthMax, Nat.one_shiftLeft, hpow]
    omega

/-- **The fields that keep every integer they accept** are those without holes. -/
theorem plain_iff {s : Spec} {max : Nat} (hmax : s.maxValue = some max) : s.Plain ↔ ∀ n ≤ max, s.kept n = n := by
  cases s with
  | mask offset m order =>
    cases hmax
    constructor
    · intro hs n hn
      have hcheck : (mask offset m order).check "" (.uint n) (mask offset m order).stop = .ok () :=
        (hs.check_iff (Nat.le_refl _)).2 fun max hmax => by cases hmax; exact hn
      exact ((canonical_uint_iff rfl).1 (hs.canonical hcheck)).2
    · intro h
      rw [Plain, ← eq_widthMax_of_and h, shiftRight_shiftLeft_trailingZeros]
  | bytes offset len transform =>
    cases transform with
    | raw | text => cases hmax
    | littleEndian | bigEndian => exact ⟨fun _ _ _ => rfl, fun _ => rfl⟩
  | bits offset width => exact ⟨fun _ _ _ => rfl, fun _ => trivial⟩

end Spec

namespace Table

variable {ι : Type} [DecidableEq ι] [Named ι]

/-! ## Encoding one integer -/

theorem accepts_of_maxValue {s : Spec} {max : Nat} (h : s.maxValue = some max) (n : Nat) :
    s.accepts (.uint n) = true := by
  cases s with
  | mask _ _ _ | bits _ _ => rfl
  | bytes offset len transform =>
    cases transform with
    | raw | text => cases h
    | littleEndian | bigEndian => rfl

theorem decodeOne_eq_ok_iff {t : Table ι} {id : ι} {s : Spec} (hs : t.spec? id = some s) {b : Bytes} {v : Value} :
    t.decodeOne id b = .ok (some v) ↔ s.stop ≤ b.length ∧ s.read b = v := by
  simp only [decodeOne, hs, Spec.decode, Spec.checkBounds]
  by_cases hl : b.length < s.stop
  · simp [hl, bind, Except.bind, Except.map, Nat.not_le.2 hl]
  · simp [hl, bind, Except.bind, Except.map, pure, Except.pure, Nat.le_of_not_lt hl]

/-- An integer that is too large is refused. -/
theorem encode_eq_error {t : Table ι} {id : ι} {s : Spec} (hs : t.spec? id = some s) {max n : Nat}
    (hmax : s.maxValue = some max) (hn : max < n) {b : Bytes} (hl : s.stop ≤ b.length) :
    t.encode ⟨[(id, .uint n)]⟩ b = .error (.valueTooLarge (Named.name id) n max) :=
  encode_eq_error_of_check [] (List.forall_mem_nil _) hs (Spec.check_eq_error hl (accepts_of_maxValue hmax n) hmax hn)

/-- **Encoding one integer** that is not too large makes the field read what it keeps of it: the integer itself, if any
buffer holds that at all, and so in every field without holes. An integer that is too large is refused, and no buffer
holds it. -/
theorem integer_stored (t : Table ι) (id : ι) (s : Spec) (max n len : Nat) (hs : t.spec? id = some s)
    (hmax : s.maxValue = some max) (hl : s.stop ≤ len) :
    (n ≤ max → (∃ b, t.encode ⟨[(id, .uint n)]⟩ (zeros len) = .ok b ∧
        t.decodeOne id b = .ok (some (.uint (s.kept n))))
      ∧ (s.kept n = n ↔ ∃ c, t.decodeOne id c = .ok (some (.uint n))))
    ∧ (max < n → t.encode ⟨[(id, .uint n)]⟩ (zeros len) = .error (.valueTooLarge (Named.name id) n max)
      ∧ ∀ c, t.decodeOne id c ≠ .ok (some (.uint n)))
    ∧ (s.Plain ↔ ∀ k ≤ max, s.kept k = k) := by
  have hl' : s.stop ≤ (zeros len).length := by rw [length_zeros]; exact hl
  refine ⟨fun hn => ?_, fun hn => ⟨encode_eq_error hs hmax hn hl', fun c hc => ?_⟩, Spec.plain_iff hmax⟩
  · have hcanonical : s.Canonical (.uint (s.kept n)) :=
      (Spec.canonical_uint_iff hmax).2 ⟨Nat.le_trans (s.kept_le n) hn, s.kept_kept n⟩
    have hstored : ∃ b, t.encode ⟨[(id, .uint n)]⟩ (zeros len) = .ok b ∧
        t.decodeOne id b = .ok (some (.uint (s.kept n))) := by
      refine ⟨s.write (.uint n) (zeros len), ?_, ?_⟩
      · refine encode_eq_ok_iff.2 ⟨fun e he s' hs' => ?_, by simp [located, hs]⟩
        cases List.mem_singleton.1 he
        cases hs.symm.trans hs'
        exact Spec.check_eq_ok_iff.2 ⟨hl', accepts_of_maxValue hmax n, fun k hk max' hmax' => by
          cases hk
          cases hmax.symm.trans hmax'
          exact hn⟩
      · rw [decodeOne_eq_ok_iff hs, Spec.length_write _ hl', ← s.write_kept]
        exact ⟨hl', Spec.read_write hl' hcanonical fun _ _ => bitAt_zeros ..⟩
    refine ⟨hstored, fun hk => ?_, fun hheld => ?_⟩
    · obtain ⟨b, -, hb⟩ := hstored
      exact ⟨b, by rw [hb, hk]⟩
    · obtain ⟨c, hc⟩ := hheld
      have hread := ((decodeOne_eq_ok_iff hs).1 hc).2
      exact ((Spec.canonical_uint_iff hmax).1 (Spec.canonical_of_read hmax hread)).2
  · have hread := ((decodeOne_eq_ok_iff hs).1 hc).2
    have := ((Spec.canonical_uint_iff hmax).1 (Spec.canonical_of_read hmax hread)).1
    omega

/-- One byte with a field in its lowest and its third bit. -/
def holedTable : Table String := ⟨[("x", .mask 0 0x5 .big)]⟩

/-- In a field with a hole, 5 is stored, 2 is accepted and lost, and 6 is refused. -/
theorem holedTable_stored :
    (∃ b, holedTable.encode ⟨[("x", .uint 5)]⟩ (zeros 1) = .ok b ∧ holedTable.decodeOne "x" b = .ok (some (.uint 5)))
      ∧ (∃ b, holedTable.encode ⟨[("x", .uint 2)]⟩ (zeros 1) = .ok b
        ∧ holedTable.decodeOne "x" b = .ok (some (.uint 0)))
      ∧ holedTable.encode ⟨[("x", .uint 6)]⟩ (zeros 1) = .error (.valueTooLarge "x" 6 5)
      ∧ ∀ c, holedTable.decodeOne "x" c ≠ .ok (some (.uint 6)) := by
  have hmax : (Spec.mask 0 0x5 .big).maxValue = some 5 := by decide +kernel
  have hstored n := integer_stored holedTable "x" (.mask 0 0x5 .big) 5 n 1 rfl hmax (by decide +kernel)
  have hfive : (Spec.mask 0 0x5 .big).kept 5 = 5 := by decide +kernel
  have htwo : (Spec.mask 0 0x5 .big).kept 2 = 0 := by decide +kernel
  refine ⟨?_, ?_, (hstored 6).2.1 (by decide)⟩
  · have h := ((hstored 5).1 (by decide)).1
    rwa [hfive] at h
  · have h := ((hstored 2).1 (by decide)).1
    rwa [htwo] at h

/-- A field with a hole accepts an integer and gives back another one. -/
theorem accepted_integer_lost : ¬∀ (t : Table String) (id : String) (s : Spec) (n len : Nat), t.spec? id = some s →
    s.WellFormed → s.maxValue.isSome = true → s.stop ≤ len →
      ∀ b, t.encode ⟨[(id, .uint n)]⟩ (zeros len) = .ok b → t.decodeOne id b = .ok (some (.uint n)) := by
  intro hall
  have hstop : (Spec.mask 0 0x5 .big).stop ≤ 1 := by decide +kernel
  have hencode : holedTable.encode ⟨[("x", .uint 2)]⟩ (zeros 1) = .ok [0] := by decide +kernel
  have hdecode : holedTable.decodeOne "x" [0] = .ok (some (.uint 0)) := by decide +kernel
  have hlost := hall holedTable "x" (.mask 0 0x5 .big) 2 1 rfl (by decide) rfl hstop [0] hencode
  rw [hdecode] at hlost
  cases hlost

end Table

end StorageCommands.Layout
