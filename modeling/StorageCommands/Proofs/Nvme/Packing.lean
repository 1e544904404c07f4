import StorageCommands.Proofs.Layout.Atomicity
import StorageCommands.Proofs.Nvme.Registers
import StorageCommands.Proofs.Nvme.Settings

/-!
# Packing dwords

Values are packed into a dword through its bytes. With fields that are bit ranges this is 32-bit arithmetic: a window of
the dword is masked out and the shifted value put there (`replaceWindow`).

- `writeBits_dwordBytes`: one field, compared bit by bit.
- `Table.encode_dwordBytes`: the values of a table, in their order.
- `setAll_packs`: all dwords of a command, whatever is set of it and in which order.
-/

namespace StorageCommands

open Bytes Layout

namespace Nvme

/-! ## One window -/

/-- The dword whose one bits are those of a window. -/
def windowMask (offset width : Nat) : UInt32 := UInt32.ofNat ((2 ^ width - 1) <<< offset)

/-- The dword with a window replaced by a value. -/
def replaceWindow (x : UInt32) (offset width v : Nat) : UInt32 :=
  x &&& ~~~windowMask offset width ||| UInt32.ofNat (v <<< offset)

theorem testBit_windowMask {offset width i : Nat} (hi : i < 32) :
    (windowMask offset width).toNat.testBit i = decide (offset ≤ i ∧ i < offset + width) := by
  rw [windowMask, UInt32.toNat_ofNat', Nat.testBit_mod_two_pow, Nat.testBit_shiftLeft, Nat.testBit_two_pow_sub_one]
  by_cases hle : offset ≤ i
  · simp only [hi, hle, decide_true, Bool.true_and, true_and]
    exact decide_eq_decide.2 (by omega)
  · simp [hle]

/-- The bits of a value inside the window, and those of the dword outside. -/
theorem testBit_replaceWindow (x : UInt32) {offset width v i : Nat} (hv : v < 2 ^ width) (hi : i < 32) :
    (replaceWindow x offset width v).toNat.testBit i =
      if offset ≤ i ∧ i < offset + width then v.testBit (i - offset) else x.toNat.testBit i := by
  have hnot : (~~~windowMask offset width).toNat = 2 ^ 32 - ((windowMask offset width).toNat + 1) := by
    rw [UInt32.toNat_not, show UInt32.size = 2 ^ 32 from rfl]
    omega
  have hvalue : (UInt32.ofNat (v <<< offset)).toNat.testBit i = (decide (offset ≤ i) && v.testBit (i - offset)) := by
    rw [UInt32.toNat_ofNat', Nat.testBit_mod_two_pow, Nat.testBit_shiftLeft, decide_eq_true hi, Bool.true_and]
  rw [replaceWindow, UInt32.toNat_or, UInt32.toNat_and, hnot, Nat.testBit_or, Nat.testBit_and,
    Nat.testBit_two_pow_sub_succ (UInt32.toNat_lt _), testBit_windowMask hi, hvalue, decide_eq_true hi, Bool.true_and]
  by_cases hin : offset ≤ i ∧ i < offset + width
  · rw [if_pos hin, decide_eq_true hin, decide_eq_true hin.1, Bool.not_true, Bool.and_false, Bool.false_or,
      Bool.true_and]
  · -- nothing of the value lies outside the window
    have hzero : (decide (offset ≤ i) && v.testBit (i - offset)) = false := by
      by_cases hle : offset ≤ i
      · have hpow : 2 ^ width ≤ 2 ^ (i - offset) := Nat.pow_le_pow_right Nat.two_pos (by omega)
        rw [Nat.testBit_lt_two_pow (Nat.lt_of_lt_of_le hv hpow), Bool.and_false]
      · rw [decide_eq_false hle, Bool.false_and]
    rw [if_neg hin, decide_eq_false hin, hzero, Bool.not_false, Bool.and_true, Bool.or_false]

theorem bitAt_dwordBytes (x : UInt32) {pos : Nat} (h : pos < 32) : (dwordBytes x).bitAt pos = x.toNat.testBit pos := by
  rw [dwordBytes, bitAt_ofLittleEndian, decide_eq_true h, Bool.true_and]

/-- **A bit range of the bytes of a dword is a window of the dword.** -/
theorem writeBits_dwordBytes (x : UInt32) {offset width v : Nat} (h : offset + width ≤ 32) (hv : v < 2 ^ width) :
    (dwordBytes x).writeBits offset width v = dwordBytes (replaceWindow x offset width v) := by
  have hlength := length_dwordBytes x
  apply eq_of_bitAt
  · rw [length_writeBits, hlength, length_dwordBytes]
  · intro pos hpos
    rw [length_writeBits, hlength] at hpos
    rw [bitAt_writeBits (by omega), bitAt_dwordBytes _ hpos, bitAt_dwordBytes _ hpos, testBit_replaceWindow x hv hpos]

end Nvme

open Nvme

namespace Layout

/-! ## One field -/

namespace Spec

def isBits : Spec → Bool
  | bits .. => true
  | _ => false

/-- The value is an integer that is not too large for its field, which is a bit range inside the dword. -/
inductive Packs : Spec → Value → Prop
  | bits {offset width v : Nat} : offset + width ≤ 32 → v < 2 ^ width → Packs (bits offset width) (.uint v)

instance : (s : Spec) → (v : Value) → Decidable (s.Packs v)
  | bits offset width, .uint v =>
    decidable_of_iff (offset + width ≤ 32 ∧ v < 2 ^ width) ⟨fun h => .bits h.1 h.2, fun | .bits hstop hv => ⟨hstop, hv⟩⟩
  | bits .., .bytes _ | bits .., .text _ | mask .., _ | bytes .., _ => isFalse nofun

/-- The dword after a value has been packed into it. -/
def pack : Spec → Value → UInt32 → UInt32
  | bits offset width, .uint v, x => replaceWindow x offset width v
  | _, _, x => x

theorem packs_iff {s : Spec} {v : Value} (hs : s.isBits = true) : s.Packs v ↔ s.Stores v 4 := by
  cases s with
  | mask _ _ _ | bytes _ _ _ => cases hs
  | bits offset width =>
    constructor
    · rintro ⟨hstop, hv⟩
      refine ⟨by simp only [stop]; omega, rfl, ?_⟩
      rintro n ⟨⟩ max ⟨⟩
      rw [widthMax, Nat.one_shiftLeft]
      omega
    · rintro ⟨inside, accepted, fits⟩
      cases v with
      | uint n =>
        have hpos := Nat.two_pow_pos width
        have hfits := fits n rfl (widthMax width) rfl
        rw [widthMax, Nat.one_shiftLeft] at hfits
        simp only [stop] at inside
        exact .bits (by omega) (by omega)
      | bytes _ | text _ => cases accepted

theorem write_dwordBytes {s : Spec} {v : Value} (h : s.Packs v) (x : UInt32) :
    s.write v (dwordBytes x) = dwordBytes (s.pack v x) := by
  obtain ⟨hstop, hv⟩ := h
  exact writeBits_dwordBytes x hstop hv

end Spec

/-! ## All values of a table -/

namespace Table

variable {ι : Type} [DecidableEq ι]

/-- All fields are bit ranges. -/
def OfBits (t : Table ι) : Prop := ∀ f ∈ t.fields, f.2.isBits = true

/-- Every value whose field the table has can be packed into a dword. -/
def Packs (t : Table ι) (values : Values ι) : Prop := ∀ e ∈ values.entries, ∀ s ∈ t.spec? e.1, s.Packs e.2

instance (t : Table ι) : Decidable t.OfBits := inferInstanceAs (Decidable (∀ _ ∈ _, _))

instance (t : Table ι) (values : Values ι) : Decidable (t.Packs values) :=
  inferInstanceAs (Decidable (∀ _ ∈ _, ∀ _ ∈ _, _))

/-- The dword after the values have been packed into it, in their order. -/
def pack (t : Table ι) (values : Values ι) (x : UInt32) : UInt32 :=
  (t.located values.entries).foldl (fun x (s, v) => s.pack v x) x

theorem packs_iff {t : Table ι} {values : Values ι} (ht : t.OfBits) : t.Packs values ↔ t.Accepts values.entries 4 :=
  forall₄_congr fun _ _ _ hs => Spec.packs_iff (ht _ (mem_of_spec? hs))

theorem writeAll_dwordBytes {ws : List (Spec × Value)} (h : ∀ w ∈ ws, w.1.Packs w.2) (x : UInt32) :
    writeAll ws (dwordBytes x) = dwordBytes (ws.foldl (fun x (s, v) => s.pack v x) x) := by
  induction ws generalizing x with
  | nil => rfl
  | cons w ws ih =>
    obtain ⟨hw, hws⟩ := List.forall_mem_cons.1 h
    rw [writeAll_cons, Spec.write_dwordBytes hw, ih hws, List.foldl_cons]

variable [Named ι]

/-- **Encoding the bytes of a dword is packing.** -/
theorem encode_dwordBytes {t : Table ι} {values : Values ι} (ht : t.OfBits) (h : t.Packs values) (x : UInt32) :
    t.encode values (dwordBytes x) = .ok (dwordBytes (t.pack values x)) := by
  have haccepts : t.Accepts values.entries (dwordBytes x).length := by
    rw [length_dwordBytes]
    exact (packs_iff ht).1 h
  rw [haccepts.encode, writeAll_dwordBytes, pack]
  intro w hw
  obtain ⟨id, hid, hs⟩ := mem_located.1 hw
  exact h (id, w.2) hid w.1 hs

end Table

end Layout

namespace Nvme

/-! ## All dwords of a command -/

namespace Setting

/-- What is packed is packed into bit ranges. -/
def OfBits : Setting → Prop
  | encodeWord _ t _ => t.OfBits
  | _ => True

/-- What is packed fits. -/
def Packs : Setting → Prop
  | encodeWord _ t values => t.Packs values
  | _ => True

instance : (s : Setting) → Decidable s.OfBits
  | @encodeWord _ _ _ _ t _ => inferInstanceAs (Decidable t.OfBits)
  | nsid _ | cdw2 _ | cdw3 _ | word .. | transferLength _ | lentBuffer _ | ownedBuffer _ | metadata _ | timeout _ =>
    .isTrue trivial

instance : (s : Setting) → Decidable s.Packs
  | @encodeWord _ _ _ _ t values => inferInstanceAs (Decidable (t.Packs values))
  | nsid _ | cdw2 _ | cdw3 _ | word .. | transferLength _ | lentBuffer _ | ownedBuffer _ | metadata _ | timeout _ =>
    .isTrue trivial

/-- What a setting makes of one dword. -/
def pack (w : Word) (x : UInt32) : Setting → UInt32
  | word w' v => if w' = w then v else x
  | encodeWord w' t values => if w' = w then t.pack values x else x
  | _ => x

theorem packs_iff {s : Setting} (hs : s.OfBits) : s.Packs ↔ s.Accepted := by
  cases s with
  | encodeWord w t values => exact Table.packs_iff hs
  | _ => exact Iff.rfl

end Setting

namespace CommandBuilder

variable {b b' : CommandBuilder} {s : Setting}

theorem get_withWord (b : CommandBuilder) (w w' : Word) (v : UInt32) :
    (b.withWord w' v).words.get w = if w' = w then v else b.words.get w := by
  rw [withWord]
  by_cases hw : w' = w
  · subst hw
    rw [if_pos rfl, Words.get_set_self]
  · rw [if_neg hw, Words.get_set_of_ne _ _ (Ne.symm hw)]

/-- One setting packs its own dword and leaves the other five. -/
theorem set_packs (hs : s.OfBits) (h : b.set s = .ok b') (w : Word) :
    b'.words.get w = s.pack w (b.words.get w) := by
  cases s with
  | word w' v => cases h; exact b.get_withWord w w' v
  | @encodeWord ι _ _ w' t values =>
    have hpacks : t.Packs values := (Setting.packs_iff hs).2 ((set_isOk_iff b _).1 ⟨b', h⟩)
    obtain ⟨bytes, hbytes, rfl⟩ := encodeWord_eq_ok_iff.1 h
    rw [Table.encode_dwordBytes hs hpacks] at hbytes
    cases hbytes
    rw [get_withWord, Setting.pack]
    by_cases hw : w' = w
    · subst hw
      rw [if_pos rfl, if_pos rfl]
      exact dwordAt_of_slice (List.take_of_length_le (Nat.le_of_eq (length_dwordBytes _)))
    · rw [if_neg hw, if_neg hw]
  | _ => cases h; rfl

theorem build_words {d : CommandDescriptor} (h : b.build = .ok d) : d.words = b.words := by
  obtain ⟨transfer, -, hd⟩ := bind_eq_ok.1 h
  cases hd
  rfl

end CommandBuilder

/-- **Packing dwords is 32-bit arithmetic**, if the fields are bit ranges.

All settings are made if what is packed are integers that fit. If not, the first setting that does not fit says which
dword it was for, and why its values cannot be encoded there. If they are made, each dword is what the settings make of
it, one after the other, and so it is in the finished command. A driver that packs the values in place, byte by byte,
gets the bytes of the same dword. -/
theorem setAll_packs (b : CommandBuilder) (settings : List Setting) (hbits : ∀ s ∈ settings, s.OfBits) :
    ((∃ b', b.setAll settings = .ok b') ↔ ∀ s ∈ settings, s.Packs)
      ∧ (∀ e, b.setAll settings = .error e ↔ ∃ before s after b₁, settings = before ++ s :: after
          ∧ b.setAll before = .ok b₁ ∧ s.RefusedBy e)
      ∧ (∀ b', b.setAll settings = .ok b' → ∀ w,
          b'.words.get w = settings.foldl (Setting.pack w) (b.words.get w)
            ∧ ∀ d, b'.build = .ok d → d.words.get w = settings.foldl (Setting.pack w) (b.words.get w))
      ∧ ∀ {ι : Type} [DecidableEq ι] [Named ι] (w : Word) (t : Table ι) (values : Values ι),
          .encodeWord w t values ∈ settings → t.Packs values →
          (∀ f ∈ t.fields, f.2.Built ∧ InPlace.MachineSized f.2) →
          ∀ x, InPlace.Runs (InPlace.encode t values) (dwordBytes x) () (dwordBytes (t.pack values x)) := by
  refine ⟨?_, fun e => CommandBuilder.setAll_eq_error_iff, ?_, ?_⟩
  · rw [CommandBuilder.setAll_isOk_iff]
    exact forall₂_congr fun s hs => (Setting.packs_iff (hbits s hs)).symm
  · intro b' h w
    have hwords := CommandBuilder.setAll_part (fun b => b.words.get w) (Setting.pack w)
      (fun hs hset => CommandBuilder.set_packs (hbits _ hs) hset w) h
    refine ⟨hwords, fun d hd => ?_⟩
    rw [CommandBuilder.build_words hd]
    exact hwords
  · intro ι _ _ w t values hmem hpacks ht x
    obtain ⟨-, -, -, hrun⟩ := Table.encode_atomic t ht values (dwordBytes x)
    rw [Table.encode_dwordBytes (hbits _ hmem) hpacks] at hrun
    exact hrun

/-- Fields that cross byte borders, and one that reaches past the dword. -/
def straddlingTable : Table String := ⟨[("low", .bits 5 13), ("high", .bits 23 9), ("far", .bits 30 4)]⟩

/-- A dword is set and packed twice, with another one set in between. A value for a field past the end is refused. -/
theorem setAll_packs_straddling : (let b : CommandBuilder := { opcode := .io 1 }
    let settings : List Setting := [.word .cdw11 0xFFFFFFFF,
      .encodeWord .cdw11 straddlingTable ⟨[("high", .uint 0x101), ("color", .uint 9), ("low", .uint 0x1234)]⟩,
      .word .cdw12 7, .encodeWord .cdw11 straddlingTable ⟨[("low", .uint 0x0F0F)]⟩]
    let refused : Setting := .encodeWord .cdw12 straddlingTable ⟨[("low", .uint 1), ("far", .uint 1)]⟩
    (∃ b', b.setAll settings = .ok b'
        ∧ ∀ d, b'.build = .ok d → d.words.get .cdw11 = 0x80FDE1FF ∧ d.words.get .cdw12 = 7)
      ∧ b.setAll (settings ++ [refused]) = .error (.encode .cdw12 (.bufferTooSmall "far" 5 4))) := by
  intro b settings refused
  obtain ⟨hok, -, hwords, -⟩ := setAll_packs b settings (by decide)
  obtain ⟨-, herror, -, -⟩ := setAll_packs b (settings ++ [refused]) (by decide)
  obtain ⟨b', hb'⟩ := hok.2 (by decide)
  refine ⟨⟨b', hb', fun d hd => ?_⟩, ?_⟩
  · exact ⟨((hwords b' hb' .cdw11).2 d hd).trans (by decide), ((hwords b' hb' .cdw12).2 d hd).trans (by decide)⟩
  · have hfar : straddlingTable.Refuses [("low", .uint 1), ("far", .uint 1)] 4 (.bufferTooSmall "far" 5 4) :=
      ⟨[("low", .uint 1)], "far", .uint 1, [], .bits 30 4, rfl, by decide, rfl, .bufferTooSmall (by decide)⟩
    exact (herror _).2 ⟨settings, refused, [], b', rfl, hb', .encodeWord hfar⟩

end Nvme

end StorageCommands
