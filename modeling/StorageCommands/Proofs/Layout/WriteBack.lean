import StorageCommands.Proofs.Layout.Stored

/-!
# Writing back what was read

A field that is given the value that was read from it stores bits of the buffer that it was read from (`Spec.restores`):
all that it covers, but of a text only the text, without the padding behind it. Whatever other fields have stored
before, as long as those were bits of this buffer too (`Within`), the field leaves exactly these bits behind
(`bitAt_write_read`), and so do writes to any number of fields that may overlap (`bitAt_writeAll_read`).

- Written into the buffer itself, they change nothing.
- Written into zeros, they leave each field with the value that was read (`read_of_restored`): a text is followed by
  bytes whose bits are among those of padding, which are padding again.

Every value that was read passes the check of its field (`check_read`). `write_back` says all this of tables.
-/

namespace StorageCommands.Layout

open Bytes

/-! ## Bits of another string -/

/-- Every bit that is set in the first string is set in the second one. -/
def Within (c b : Bytes) : Prop := ∀ pos, c.bitAt pos = true → b.bitAt pos = true

theorem Within.refl (b : Bytes) : Within b b := fun _ h => h

theorem within_zeros (n : Nat) (b : Bytes) : Within (zeros n) b := by
  intro pos h
  rw [bitAt_zeros] at h
  cases h

theorem Within.or_eq {c b : Bytes} (h : Within c b) (pos : Nat) : (c.bitAt pos || b.bitAt pos) = b.bitAt pos := by
  cases hc : c.bitAt pos with
  | false => rw [Bool.false_or]
  | true => rw [h pos hc, Bool.or_self]

theorem Within.slice {c b : Bytes} (h : Within c b) (offset len : Nat) :
    Within (c.slice offset len) (b.slice offset len) := by
  intro pos hpos
  rw [bitAt_slice] at hpos ⊢
  by_cases hp : pos < 8 * len
  · rw [if_pos hp] at hpos ⊢
    exact h _ hpos
  · rw [if_neg hp] at hpos
    cases hpos

/-- A byte with some of the bits of a padding byte is a padding byte: a space has one bit, and a NUL none. -/
theorem isPaddingByte_of_testBit {x y : UInt8} (hy : Padded.isPaddingByte y = true)
    (h : ∀ k < 8, x.toNat.testBit k = true → y.toNat.testBit k = true) : Padded.isPaddingByte x = true := by
  simp only [Padded.isPaddingByte, Bool.or_eq_true, decide_eq_true_eq] at hy ⊢
  have hspace : ∀ k < 8, y.toNat.testBit k = true → k = 5 := by rcases hy with rfl | rfl <;> decide
  have hand : x = if x.toNat.testBit 5 then 0x20 else 0 := by
    apply eq_of_testBit
    intro k hk
    by_cases hk5 : k = 5
    · subst hk5
      cases x.toNat.testBit 5 <;> rfl
    · have hx : x.toNat.testBit k = false := Bool.eq_false_iff.2 fun hx => hk5 (hspace k hk (h k hk hx))
      have hclear : ∀ k < 8, k ≠ 5 → (0x20 : UInt8).toNat.testBit k = false := by decide
      rw [hx]
      split
      · exact (hclear k hk hk5).symm
      · exact (Nat.zero_testBit k).symm
  rw [hand]
  split
  · exact Or.inr rfl
  · exact Or.inl rfl

/-- Bytes with some of the bits of padding are padding. -/
theorem Within.isPaddingByte {c b : Bytes} (h : Within c b) (hl : c.length = b.length)
    (hb : ∀ y ∈ b, Padded.isPaddingByte y = true) : ∀ x ∈ c, Padded.isPaddingByte x = true := by
  intro x hx
  obtain ⟨i, hi, rfl⟩ := List.getElem_of_mem hx
  refine isPaddingByte_of_testBit (hb _ (List.getElem_mem (hl ▸ hi))) fun k hk hbit => ?_
  rw [← byteAt_eq_getElem, testBit_byteAt _ _ hk] at hbit ⊢
  exact h _ hbit

/-- Bytes of another string put over the same place. -/
theorem bitAt_overwrite_slice {b c : Bytes} {offset len : Nat} (hb : offset + len ≤ b.length) (hc : offset ≤ c.length)
    (pos : Nat) : (c.overwrite offset (b.slice offset len)).bitAt pos =
      if 8 * offset ≤ pos ∧ pos < 8 * (offset + len) then b.bitAt pos else c.bitAt pos := by
  rw [bitAt_overwrite hc, length_slice hb]
  by_cases hp : 8 * offset ≤ pos ∧ pos < 8 * (offset + len)
  · rw [if_pos hp, if_pos hp, bitAt_slice, if_pos (by omega), Nat.add_sub_cancel' hp.1]
  · rw [if_neg hp, if_neg hp]

namespace Spec

/-! ## One field -/

/-- A text field has valid UTF-8 in its range. -/
def HoldsText : Spec → Bytes → Prop
  | bytes offset len .text, b => Utf8.Valid (b.slice offset len)
  | bytes _ _ .raw, _ | bytes _ _ .littleEndian, _ | bytes _ _ .bigEndian, _ | mask .., _ | bits .., _ => True

instance : (s : Spec) → (b : Bytes) → Decidable (s.HoldsText b)
  | bytes offset len .text, b => inferInstanceAs (Decidable (Utf8.Valid (b.slice offset len)))
  | bytes _ _ .raw, _ | bytes _ _ .littleEndian, _ | bytes _ _ .bigEndian, _ | mask .., _ | bits .., _ => isTrue trivial

/-- The length of the text in a range, its padding apart. -/
def textLength (b : Bytes) (offset len : Nat) : Nat := (Utf8.encode (Padded.ofBytes (b.slice offset len))).length

/-- Whether a bit of the buffer is stored again with the value that was read from a field. -/
def restores : Spec → Bytes → Nat → Bool
  | bytes offset len .text, b, pos => decide (8 * offset ≤ pos ∧ pos < 8 * (offset + textLength b offset len))
  | s, _, pos => s.covers pos

/-- A text without its padding is the start of its range, and the rest is padding. -/
theorem encode_ofBytes_slice {b : Bytes} {offset len : Nat} (h : offset + len ≤ b.length)
    (hv : Utf8.Valid (b.slice offset len)) :
    textLength b offset len ≤ len
      ∧ Utf8.encode (Padded.ofBytes (b.slice offset len)) = b.slice offset (textLength b offset len)
      ∧ ∀ y ∈ b.slice (offset + textLength b offset len) (len - textLength b offset len),
          Padded.isPaddingByte y = true := by
  obtain ⟨pad, hpad, hall⟩ := Padded.exists_padding hv
  have hlen : textLength b offset len ≤ len := by
    have := congrArg List.length hpad
    rw [length_slice h, List.length_append] at this
    unfold textLength
    omega
  have hsplit := slice_add b offset (textLength b offset len) (len - textLength b offset len)
  rw [Nat.add_sub_cancel' hlen] at hsplit
  obtain ⟨htext, hrest⟩ := List.append_inj (hpad.symm.trans hsplit)
    (length_slice (Nat.le_trans (Nat.add_le_add_left hlen _) h)).symm
  exact ⟨hlen, htext, hrest ▸ hall⟩

/-- **One field**: given the value that was read from it, it leaves the bits behind that it restores. -/
theorem bitAt_write_read {s : Spec} {b c : Bytes} (h : s.stop ≤ b.length) (hl : c.length = b.length)
    (ht : s.HoldsText b) (hc : Within c b) (pos : Nat) :
    (s.write (s.read b) c).bitAt pos = bif s.restores b pos then b.bitAt pos else c.bitAt pos := by
  have hstop : s.stop ≤ c.length := by rw [hl]; exact h
  cases s with
  | mask offset m order =>
    simp only [restores]
    cases hcovers : (mask offset m order).covers pos with
    | false => exact bitAt_write_of_not_covers _ hstop hcovers
    | true =>
      simp only [covers, Bool.and_eq_true, decide_eq_true_eq] at hcovers
      obtain ⟨hp, hm⟩ := hcovers
      rw [read, bitAt_write_mask _ hstop hp, Nat.testBit_and, Nat.testBit_shiftLeft, Nat.testBit_shiftRight,
        Nat.add_sub_cancel' (trailingZeros_le hm), testBit_masked order h, hm,
        decide_eq_true
          (show order.position (maskWidth m) (pos - 8 * offset) ≥ trailingZeros m from trailingZeros_le hm),
        order.position_position (by omega), Nat.add_sub_cancel' hp.1]
      simp only [Bool.true_and, Bool.and_true, cond_true]
      exact hc.or_eq pos
  | bytes offset len transform =>
    simp only [stop] at h hstop
    have hoffset : offset ≤ c.length := by omega
    have hslice := length_slice h
    cases transform with
    | raw =>
      simp only [read, write, copyInto, restores, covers, List.take_of_length_le (Nat.le_of_eq hslice),
        Bool.cond_decide]
      exact bitAt_overwrite_slice h hoffset pos
    | littleEndian | bigEndian =>
      simp only [read, write, Transform.order?, Option.getD_some, restores, covers, Bool.cond_decide]
      have hwrite := fun order : ByteOrder => order.write_read (b.slice offset len)
      rw [hslice] at hwrite
      rw [hwrite]
      exact bitAt_overwrite_slice h hoffset pos
    | text =>
      obtain ⟨hlen, htext, -⟩ := encode_ofBytes_slice h ht
      simp only [read, write, copyInto, restores, Bool.cond_decide]
      rw [List.take_of_length_le hlen, htext]
      exact bitAt_overwrite_slice (by omega) hoffset pos
  | bits offset width =>
    simp only [stop] at hstop
    simp only [read, write, restores, covers, Bool.cond_decide]
    rw [bitAt_writeBits (by omega)]
    by_cases hp : offset ≤ pos ∧ pos < offset + width
    · rw [if_pos hp, if_pos hp, testBit_readBits, decide_eq_true (by omega), Nat.add_sub_cancel' hp.1, Bool.true_and]
    · rw [if_neg hp, if_neg hp]

/-- **A field whose bits are restored reads its value again**, if all the other bits are bits of the buffer too. -/
theorem read_of_restored {s : Spec} {b c : Bytes} (h : s.stop ≤ b.length) (hl : c.length = b.length)
    (ht : s.HoldsText b) (hc : Within c b) (hr : ∀ pos, s.restores b pos = true → c.bitAt pos = b.bitAt pos) :
    s.read c = s.read b := by
  have hstop : s.stop ≤ c.length := by rw [hl]; exact h
  cases s with
  | bytes offset len transform =>
    cases transform with
    | text =>
      simp only [stop] at h hstop
      obtain ⟨hlen, htext, hpad⟩ := encode_ofBytes_slice h ht
      -- the text stands in both buffers, and what follows it is padding in both
      have hsame : c.slice offset (textLength b offset len) = Utf8.encode (Padded.ofBytes (b.slice offset len)) := by
        rw [htext]
        exact slice_congr (by omega) (by omega) fun pos h1 h2 => hr pos (by simp [restores, h1, h2])
      have hpad' := (hc.slice (offset + textLength b offset len) (len - textLength b offset len)).isPaddingByte
        (by rw [length_slice (by omega), length_slice (by omega)]) hpad
      have hsplit := slice_add c offset (textLength b offset len) (len - textLength b offset len)
      rw [Nat.add_sub_cancel' hlen, hsame] at hsplit
      rw [read, read, hsplit, Padded.ofBytes_encode_append (Padded.isPadding_getLast_ofBytes _) hpad']
    | raw | littleEndian | bigEndian => exact read_congr hstop h hr
  | mask _ _ _ | bits _ _ => exact read_congr hstop h hr

/-- Every value that is read passes the check. -/
theorem check_read {s : Spec} {b : Bytes} {len : Nat} (h : s.stop ≤ len) (name : String) :
    s.check name (s.read b) len = .ok () := by
  refine check_eq_ok_iff.2 ⟨h, ?_, fun n hn max hmax => ?_⟩
  · cases s with
    | bytes offset len transform => cases transform <;> rfl
    | mask _ _ _ | bits _ _ => rfl
  · have hread : s.read b = .uint n := by
      cases hv : s.read b with
      | uint k =>
        rw [hv] at hn
        cases hn
        rfl
      | bytes _ | text _ =>
        rw [hv] at hn
        cases hn
    exact ((canonical_uint_iff hmax).1 (canonical_of_read hmax hread)).1

end Spec

/-! ## Runs of writes -/

/-- **Any number of fields**, in any order and however they overlap. -/
theorem bitAt_writeAll_read {b : Bytes} {ws : List (Spec × Value)} (hr : ∀ w ∈ ws, w.2 = w.1.read b)
    (h : ∀ w ∈ ws, w.1.stop ≤ b.length) (ht : ∀ w ∈ ws, w.1.HoldsText b) {c : Bytes} (hl : c.length = b.length)
    (hc : Within c b) (pos : Nat) :
    (writeAll ws c).bitAt pos = bif ws.any fun w => w.1.restores b pos then b.bitAt pos else c.bitAt pos := by
  induction ws generalizing c with
  | nil => rfl
  | cons w ws ih =>
    obtain ⟨hw, hws⟩ := List.forall_mem_cons.1 h
    have hbit := Spec.bitAt_write_read hw hl (ht w List.mem_cons_self) hc
    rw [← hr w List.mem_cons_self] at hbit
    have hlen : (w.1.write w.2 c).length = b.length := by rw [Spec.length_write _ (hl ▸ hw), hl]
    have hwithin : Within (w.1.write w.2 c) b := by
      intro p hp
      rw [hbit] at hp
      cases hres : w.1.restores b p with
      | true => rwa [hres] at hp
      | false =>
        rw [hres] at hp
        exact hc p hp
    rw [writeAll_cons, ih (fun x hx => hr x (List.mem_cons_of_mem _ hx)) hws
      (fun x hx => ht x (List.mem_cons_of_mem _ hx)) hlen hwithin, hbit, List.any_cons]
    cases w.1.restores b pos <;> cases ws.any (fun w => w.1.restores b pos) <;> rfl

namespace Table

variable {ι : Type} [DecidableEq ι] [Named ι]

/-! ## Tables -/

/-- The fields, each with what it reads. -/
def contents (t : Table ι) (b : Bytes) : List (Spec × Value) := t.fields.map fun f => (f.2, f.2.read b)

/-- Encoding what was read from one buffer into another one of its length writes every field. -/
theorem encode_read {t : Table ι} (hn : (t.fields.map Prod.fst).Nodup) {b c : Bytes} (hl : t.minLength ≤ c.length) :
    t.encode ⟨t.fields.map fun f => (f.1, f.2.read b)⟩ c = .ok (writeAll (t.contents b) c) := by
  refine encode_eq_ok_iff.2 ⟨fun e he s hs => ?_, ?_⟩
  · obtain ⟨f, hf, rfl⟩ := List.mem_map.1 he
    cases (spec?_of_mem hn hf).symm.trans hs
    exact Spec.check_read (Nat.le_trans (stop_le_minLength hf) hl) _
  · congr 1
    rw [located, List.filterMap_map, contents, ← List.filterMap_eq_map]
    refine List.filterMap_congr fun f hf => ?_
    simp only [Function.comp_apply, spec?_of_mem hn hf, Option.map_some]

/-- **Writing back what was read**: values that were read from a buffer are stored in it again without an error and
without a change. Stored in zeros, they are read from there again. The fields may overlap, as long as no field is listed
twice and every text is valid UTF-8. -/
theorem write_back (t : Table ι) (b : Bytes) (hn : (t.fields.map Prod.fst).Nodup) (hl : t.minLength ≤ b.length)
    (ht : ∀ f ∈ t.fields, f.2.HoldsText b) :
    ∃ values, t.decode b = .ok values ∧ t.encode values b = .ok b
      ∧ ∃ c, t.encode values (zeros b.length) = .ok c ∧ t.decode c = .ok values := by
  have hlen : (zeros b.length).length = b.length := length_zeros _
  have hstop : ∀ f ∈ t.fields, f.2.stop ≤ b.length := fun f hf => Nat.le_trans (stop_le_minLength hf) hl
  have hstops : ∀ w ∈ t.contents b, w.1.stop ≤ b.length := List.forall_mem_map.2 hstop
  have hreads : ∀ w ∈ t.contents b, w.2 = w.1.read b := List.forall_mem_map.2 fun _ _ => rfl
  have htexts : ∀ w ∈ t.contents b, w.1.HoldsText b := List.forall_mem_map.2 ht
  have hbit {c : Bytes} (hc : c.length = b.length) (hwithin : Within c b) :=
    bitAt_writeAll_read hreads hstops htexts hc hwithin
  refine ⟨_, decode_eq_ok hl, ?_, writeAll (t.contents b) (zeros b.length), encode_read hn (hlen.symm ▸ hl), ?_⟩
  · rw [encode_read hn hl]
    refine congrArg Except.ok (eq_of_bitAt (length_writeAll hstops) fun pos _ => ?_)
    rw [hbit rfl (Within.refl b), Bool.cond_self]
  · have hlength : (writeAll (t.contents b) (zeros b.length)).length = b.length := by
      rw [length_writeAll (by rwa [hlen]), hlen]
    have hwithin : Within (writeAll (t.contents b) (zeros b.length)) b := by
      intro pos hpos
      rw [hbit hlen (within_zeros _ b), bitAt_zeros] at hpos
      cases hany : (t.contents b).any fun w => w.1.restores b pos with
      | true => rwa [hany] at hpos
      | false =>
        rw [hany] at hpos
        cases hpos
    rw [decode_eq_ok (hlength.symm ▸ hl)]
    refine congrArg (fun entries => Except.ok (Values.mk entries)) (List.map_congr_left fun f hf => ?_)
    refine Prod.ext rfl (Spec.read_of_restored (hstop f hf) hlength (ht f hf) hwithin fun pos hpos => ?_)
    have hany : ((t.contents b).any fun w => w.1.restores b pos) = true :=
      List.any_eq_true.2 ⟨(f.2, f.2.read b), List.mem_map.2 ⟨f, hf, rfl⟩, hpos⟩
    rw [hbit hlen (within_zeros _ b), hany, cond_true]

/-- A name in four bytes, the middle bits of its first two bytes, its last byte, and a flag in the padding behind it. -/
def taggedTable : Table String :=
  ⟨[("name", .bytes 0 4 .text), ("middle", .mask 0 0x0FF0 .big), ("last", .bytes 3 1 .raw), ("flag", .bits 29 1)]⟩

/-- A name with two spaces behind it. The flag is the one bit that is set in a space. -/
theorem taggedTable_write_back :
    (taggedTable.fields.map Prod.fst).Nodup ∧ taggedTable.minLength ≤ [0x4E, 0x56, 0x20, 0x20, 0xFF].length
      ∧ (∀ f ∈ taggedTable.fields, f.2.HoldsText [0x4E, 0x56, 0x20, 0x20, 0xFF])
      ∧ ∃ values, taggedTable.decode [0x4E, 0x56, 0x20, 0x20, 0xFF] = .ok values
        ∧ taggedTable.encode values [0x4E, 0x56, 0x20, 0x20, 0xFF] = .ok [0x4E, 0x56, 0x20, 0x20, 0xFF]
        ∧ ∃ c, taggedTable.encode values (zeros 5) = .ok c ∧ taggedTable.decode c = .ok values := by
  have hn : (taggedTable.fields.map Prod.fst).Nodup := by decide +kernel
  have hl : taggedTable.minLength ≤ [0x4E, 0x56, 0x20, 0x20, 0xFF].length := by decide +kernel
  have ht : ∀ f ∈ taggedTable.fields, f.2.HoldsText [0x4E, 0x56, 0x20, 0x20, 0xFF] := by decide +kernel
  exact ⟨hn, hl, ht, write_back taggedTable [0x4E, 0x56, 0x20, 0x20, 0xFF] hn hl ht⟩

end Table

end StorageCommands.Layout
