import StorageCommands.Scsi.Sense
import StorageCommands.Proofs.EventLog.Stepwise

/-!
# The declared length of sense data

Sense data says in its eighth byte how many bytes follow. Only the bytes up to there are visible (`visible`), and what
is decoded is what they say, zeros after them (`FixedSense.ReadFrom`).

- `FixedSense.ReadFrom.eq_zero`: a field past the visible bytes is zero. One that is cut keeps the bytes that are
  visible.
- `Stepwise.decode_eq`: done step by step, decoding halts only with a report. Three lengths meet in the copy, that of
  the data, the declared one and that of the structure, and none of them is exceeded.
- `declared_length_exact`: which sense data is refused, and why, and that strings with the same visible bytes decode to
  the same.
-/

namespace StorageCommands

open Bytes

/-! ## Windows and big-endian integers -/

namespace Bytes

theorem slice_window (b : Bytes) (offset : Nat) {i n len : Nat} (h : i + n ≤ len) :
    (b.window offset len).slice i n = b.window (offset + i) n := by
  have hlen : ((b.window offset len).slice i n).length = n := length_slice (by rwa [length_window])
  apply eq_of_byteAt (by rw [hlen, length_window])
  intro k hk
  rw [hlen] at hk
  rw [byteAt_slice, if_pos hk, byteAt_window, if_pos (by omega), byteAt_window, if_pos hk, Nat.add_assoc]

/-- Past the end of the string a window has nothing but zeros. -/
theorem window_of_length_le {b : Bytes} {offset : Nat} (h : b.length ≤ offset) (len : Nat) :
    b.window offset len = zeros len := by
  apply eq_of_byteAt (by simp)
  intro i hi
  rw [byteAt_window, byteAt_zeros, byteAt_of_length_le (by omega), ite_self]

theorem bigEndian_lt (b : Bytes) : b.bigEndian < 2 ^ (8 * b.length) := by
  have hlt := littleEndian_lt b.reverse
  rwa [← bigEndian_eq, List.length_reverse] at hlt

end Bytes

namespace Scsi

/-! ## What is visible -/

/-- The bytes of sense data that count: those up to the length that it declares. -/
def visible (data : Bytes) : Bytes := data.take (8 + (data.byteAt 7).toNat)

/-- The visible bytes, followed by zeros, as sense data in fixed format. -/
def stored (data : Bytes) : SenseData := .ofBytes ((visible data).window 0 senseLength)

theorem length_visible (data : Bytes) : (visible data).length = min (8 + (data.byteAt 7).toNat) data.length :=
  List.length_take ..

/-- The bytes up to the one that declares the length are visible. -/
theorem byteAt_visible {data : Bytes} {i : Nat} (h : i < 8) : (visible data).byteAt i = data.byteAt i := by
  rw [visible, byteAt_take, if_pos (by omega)]

/-- Strings that agree up to the declared length, zeros after their end, store the same sense data. -/
theorem stored_congr {data other : Bytes} (hhead : data.take 8 = other.take 8)
    (hrest : ∀ i, 8 ≤ i → i < min 18 (8 + (data.byteAt 7).toNat) → data.byteAt i = other.byteAt i) :
    stored data = stored other := by
  have hbyte : ∀ i < 8, data.byteAt i = other.byteAt i := by
    intro i hi
    have h := congrArg (Bytes.byteAt · i) hhead
    simp only [byteAt_take, if_pos hi] at h
    exact h
  refine congrArg SenseData.ofBytes (eq_of_byteAt (by simp) fun i hi => ?_)
  rw [length_window] at hi
  rw [byteAt_window, byteAt_window, if_pos hi, if_pos hi, Nat.zero_add, visible, visible, byteAt_take, byteAt_take,
    ← hbyte 7 (by omega)]
  rw [senseLength] at hi
  by_cases hin : i < 8 + (data.byteAt 7).toNat
  · rw [if_pos hin, if_pos hin]
    by_cases h8 : i < 8
    · exact hbyte i h8
    · exact hrest i (by omega) (by omega)
  · rw [if_neg hin, if_neg hin]

/-! ## What is decoded -/

namespace FixedSense

/-- Each field is what the bytes say in its place, zero past their end. -/
structure ReadFrom (s : FixedSense) (b : Bytes) : Prop where
  responseCode : s.responseCode.toNat = (b.byteAt 0).toNat % 2 ^ 7
  valid : s.valid = (b.byteAt 0).toNat.testBit 7
  key : s.key.toNat = (b.byteAt 2).toNat % 2 ^ 4
  incorrectLength : s.incorrectLength = (b.byteAt 2).toNat.testBit 5
  endOfMedia : s.endOfMedia = (b.byteAt 2).toNat.testBit 6
  fileMark : s.fileMark = (b.byteAt 2).toNat.testBit 7
  information : s.information.toNat = (b.window 3 4).bigEndian
  commandSpecific : s.commandSpecific.toNat = (b.window 8 4).bigEndian
  code : s.code = b.byteAt 12
  qualifier : s.qualifier = b.byteAt 13
  fieldReplaceableUnit : s.fieldReplaceableUnit = b.byteAt 14
  keySpecific : s.keySpecific = (b.byteAt 15, b.byteAt 16, b.byteAt 17)

/-- The fields as integers, each with the index of its first byte. -/
def fields (s : FixedSense) : List (Nat × Nat) :=
  [(0, s.responseCode.toNat), (0, s.valid.toNat), (2, s.key.toNat), (2, s.incorrectLength.toNat),
   (2, s.endOfMedia.toNat), (2, s.fileMark.toNat), (3, s.information.toNat), (8, s.commandSpecific.toNat),
   (12, s.code.toNat), (13, s.qualifier.toNat), (14, s.fieldReplaceableUnit.toNat), (15, s.keySpecific.1.toNat),
   (16, s.keySpecific.2.1.toNat), (17, s.keySpecific.2.2.toNat)]

/-- A field that begins past the end of the bytes is zero. -/
theorem ReadFrom.eq_zero {s : FixedSense} {b : Bytes} (h : s.ReadFrom b) {field : Nat × Nat} (hfield : field ∈ s.fields)
    (hpast : b.length ≤ field.1) : field.2 = 0 := by
  have hbyte : ∀ i, field.1 ≤ i → b.byteAt i = 0 := fun i hi => byteAt_of_length_le (Nat.le_trans hpast hi)
  have hwindow : (b.window field.1 4).bigEndian = 0 := by rw [window_of_length_le hpast]; rfl
  simp only [fields, List.mem_cons, List.not_mem_nil, or_false] at hfield
  rcases hfield with rfl | rfl | rfl | rfl | rfl | rfl | rfl | rfl | rfl | rfl | rfl | rfl | rfl | rfl
  · rw [h.responseCode, hbyte 0 (Nat.le_refl _)]; rfl
  · simp [h.valid, hbyte 0]
  · simp [h.key, hbyte 2]
  · simp [h.incorrectLength, hbyte 2]
  · simp [h.endOfMedia, hbyte 2]
  · simp [h.fileMark, hbyte 2]
  · exact h.information.trans hwindow
  · exact h.commandSpecific.trans hwindow
  · simp [h.code, hbyte 12]
  · simp [h.qualifier, hbyte 13]
  · simp [h.fieldReplaceableUnit, hbyte 14]
  · simp [h.keySpecific, hbyte 15]
  · simp [h.keySpecific, hbyte 16]
  · simp [h.keySpecific, hbyte 17]

/-- The integer under a field of a byte. -/
theorem toNat_get (name : String) {width : Nat} (hwidth : width ≤ 8) (x : UInt8) :
    (UInt8.ofNat ((RegisterField.number name 0 width).get x.toNat)).toNat = x.toNat % 2 ^ width := by
  have hle : 2 ^ width ≤ 2 ^ 8 := Nat.pow_le_pow_right Nat.two_pos hwidth
  have hlt := (RegisterField.number name 0 width).get_lt x.toNat
  rw [UInt8.toNat_ofNat', Nat.mod_eq_of_lt (Nat.lt_of_lt_of_le hlt hle), RegisterField.get, RegisterField.number,
    Nat.shiftRight_zero, Nat.one_shiftLeft]

/-- An integer that 18 bytes hold, of a window that goes on with zeros. -/
theorem toNat_window (b : Bytes) {i : Nat} (h : i + 4 ≤ senseLength) :
    (UInt32.ofNat ((b.window 0 senseLength).slice i 4).bigEndian).toNat = (b.window i 4).bigEndian := by
  have hlt := bigEndian_lt (b.window i 4)
  rw [length_window] at hlt
  rw [slice_window b 0 h, Nat.zero_add, UInt32.toNat_ofNat', Nat.mod_eq_of_lt hlt]

/-- What is read from 18 bytes is what they say, and so is what is read from a string filled up to them. -/
theorem readFrom_window (b : Bytes) : (ofData (.ofBytes (b.window 0 senseLength))).ReadFrom b := by
  have hbyte : ∀ i < senseLength, (b.window 0 senseLength).byteAt i = b.byteAt i := by
    intro i hi
    rw [byteAt_window, if_pos hi, Nat.zero_add]
  constructor
  case responseCode => rw [← hbyte 0 (by decide)]; exact toNat_get _ (by decide) _
  case valid => rw [← hbyte 0 (by decide)]; exact RegisterField.test_bit ..
  case key => rw [← hbyte 2 (by decide)]; exact toNat_get _ (by decide) _
  case incorrectLength => rw [← hbyte 2 (by decide)]; exact RegisterField.test_bit ..
  case endOfMedia => rw [← hbyte 2 (by decide)]; exact RegisterField.test_bit ..
  case fileMark => rw [← hbyte 2 (by decide)]; exact RegisterField.test_bit ..
  case information => exact toNat_window b (by decide)
  case commandSpecific => exact toNat_window b (by decide)
  case code => exact hbyte 12 (by decide)
  case qualifier => exact hbyte 13 (by decide)
  case fieldReplaceableUnit => exact hbyte 14 (by decide)
  case keySpecific =>
    rw [← hbyte 15 (by decide), ← hbyte 16 (by decide), ← hbyte 17 (by decide)]
    rfl

/-- The verdict on what was read: it is sense data in fixed format, or is refused for its response code. -/
def judged (s : FixedSense) : Except SenseError FixedSense :=
  if s.responseCode = .fixedCurrent ∨ s.responseCode = .fixedDeferred then .ok s
  else if s.responseCode = .descriptorCurrent ∨ s.responseCode = .descriptorDeferred then
    .error (.descriptorFormat s.responseCode)
  else .error (.unknownResponseCode s.responseCode)

theorem decode_eq (data : Bytes) :
    decode data = if data.length < 8 then .error (.tooShort data.length) else (ofData (stored data)).judged := by
  have hfill := fill_zeros senseLength 0 (visible data)
  rw [List.drop_zero] at hfill
  rw [decode, stored, ← hfill]
  rfl

/-- The errors that the verdict can be, and for which response codes it is each. -/
theorem judged_eq_error_iff {s : FixedSense} {e : SenseError} :
    s.judged = .error e ↔
      e = .descriptorFormat s.responseCode ∧ s.responseCode ∈ [0x72, 0x73]
      ∨ e = .unknownResponseCode s.responseCode ∧ s.responseCode ∉ [0x70, 0x71, 0x72, 0x73] := by
  simp only [judged, ResponseCode.fixedCurrent, ResponseCode.fixedDeferred, ResponseCode.descriptorCurrent,
    ResponseCode.descriptorDeferred]
  grind

theorem judged_eq_ok_iff {s t : FixedSense} : s.judged = .ok t ↔ t = s ∧ s.responseCode ∈ [0x70, 0x71] := by
  simp only [judged, ResponseCode.fixedCurrent, ResponseCode.fixedDeferred]
  grind

end FixedSense

/-! ## What is refused -/

/-- What the error reports is the case. The response code is in the low seven bits of the first byte. -/
def SenseError.Explains (data : Bytes) : SenseError → Prop
  | tooShort len => len = data.length ∧ data.length < 8
  | descriptorFormat code => 8 ≤ data.length ∧ code.toNat = (data.byteAt 0).toNat % 2 ^ 7 ∧ code ∈ [0x72, 0x73]
  | unknownResponseCode code =>
    8 ≤ data.length ∧ code.toNat = (data.byteAt 0).toNat % 2 ^ 7 ∧ code ∉ [0x70, 0x71, 0x72, 0x73]

namespace FixedSense

theorem responseCode_stored (data : Bytes) :
    (ofData (stored data)).responseCode.toNat = (data.byteAt 0).toNat % 2 ^ 7 := by
  have hcode := (readFrom_window (visible data)).responseCode
  rwa [byteAt_visible (by decide)] at hcode

theorem decode_eq_error_iff {data : Bytes} {e : SenseError} : decode data = .error e ↔ e.Explains data := by
  have hcode := responseCode_stored data
  rw [decode_eq]
  by_cases hshort : data.length < 8
  · rw [if_pos hshort]
    cases e with
    | tooShort len => simp [SenseError.Explains, hshort, eq_comm]
    | descriptorFormat code => simp [SenseError.Explains, Nat.not_le.2 hshort]
    | unknownResponseCode code => simp [SenseError.Explains, Nat.not_le.2 hshort]
  · have hlen : 8 ≤ data.length := Nat.le_of_not_lt hshort
    rw [if_neg hshort, judged_eq_error_iff]
    generalize (ofData (stored data)).responseCode = stated at hcode
    cases e with
    | tooShort len => simp [SenseError.Explains, hshort]
    | descriptorFormat code =>
      simp only [SenseError.Explains, ← hcode, UInt8.toNat_inj, hlen]
      grind
    | unknownResponseCode code =>
      simp only [SenseError.Explains, ← hcode, UInt8.toNat_inj, hlen]
      grind

theorem decode_eq_ok_iff {data : Bytes} {s : FixedSense} :
    decode data = .ok s ↔
      s = ofData (stored data) ∧ 8 ≤ data.length ∧ (data.byteAt 0).toNat % 2 ^ 7 ∈ [0x70, 0x71] := by
  have hcode := responseCode_stored data
  rw [decode_eq]
  by_cases hshort : data.length < 8
  · simp [hshort, Nat.not_le.2 hshort]
  · have hlen : 8 ≤ data.length := Nat.le_of_not_lt hshort
    rw [if_neg hshort, judged_eq_ok_iff, ← hcode]
    simp [hlen, ← UInt8.toNat_inj]

/-! ## Step by step -/

namespace Stepwise

open EventLog.Stepwise

/-- Reads sense data from a string that has just as many bytes. -/
def readData (b : Bytes) : Option SenseData := if b.length = senseLength then some (.ofBytes b) else none

/-- Reads sense data in fixed format, with a buffer of zeros that the visible bytes are copied to. -/
def decode (data : Bytes) : Work SenseError FixedSense := do
  if data.length < senseHeaderLength then throw (.refused (.tooShort data.length))
  let following ← index data 7
  let declared ← add senseHeaderLength following.toNat
  let len := min (min declared data.length) senseLength
  let window ← range (zeros senseLength) 0 len
  let head ← range data 0 len
  let copied ← copy window head
  match readData ((zeros senseLength).overwrite 0 copied) with
  | none => throw (.refused (.tooShort len))
  | some s =>
    let sense := ofData s
    if sense.responseCode = .fixedCurrent ∨ sense.responseCode = .fixedDeferred then return sense
    else if sense.responseCode = .descriptorCurrent ∨ sense.responseCode = .descriptorDeferred then
      throw (.refused (.descriptorFormat sense.responseCode))
    else throw (.refused (.unknownResponseCode sense.responseCode))

/-- How many bytes are copied. -/
def copiedLength (data : Bytes) : Nat := min (min (8 + (data.byteAt 7).toNat) data.length) senseLength

theorem length_slice_copied (data : Bytes) : (data.slice 0 (copiedLength data)).length = copiedLength data :=
  length_slice (by rw [copiedLength]; omega)

theorem length_overwrite_zeros (data : Bytes) :
    ((zeros senseLength).overwrite 0 (data.slice 0 (copiedLength data))).length = senseLength := by
  rw [length_overwrite, length_zeros]
  rw [length_slice_copied, length_zeros, copiedLength]
  omega

/-- What is left in the buffer: the visible bytes, as far as they are copied, and zeros. -/
theorem overwrite_zeros (data : Bytes) :
    (zeros senseLength).overwrite 0 (data.slice 0 (copiedLength data)) = (visible data).window 0 senseLength := by
  have hbuffer := length_overwrite_zeros data
  apply eq_of_byteAt (by rw [hbuffer, length_window])
  intro i hi
  rw [hbuffer] at hi
  rw [byteAt_overwrite (Nat.zero_le _), length_slice_copied, byteAt_slice, byteAt_zeros, byteAt_window, if_pos hi,
    visible, byteAt_take]
  simp only [Nat.zero_le, true_and, Nat.zero_add, Nat.sub_zero]
  by_cases hin : i < copiedLength data
  · rw [if_pos hin, if_pos hin, if_pos (by rw [copiedLength] at hin; omega)]
  · -- past what is copied, either the declared length is reached or the data ends
    rw [if_neg hin]
    rw [copiedLength] at hin
    split
    · rw [byteAt_of_length_le (by omega)]
    · rfl

/-- **Step by step**: no index, sum, range or copy halts, and the buffer always has the bytes of the structure. -/
theorem decode_eq (data : Bytes) : decode data = (FixedSense.decode data).mapError .refused := by
  rw [FixedSense.decode_eq]
  by_cases hshort : data.length < senseHeaderLength
  · rw [decode, if_pos hshort, if_pos (show data.length < 8 from hshort)]
    rfl
  · have hlen : 8 ≤ data.length := Nat.le_of_not_lt hshort
    have hbyte := (data.byteAt 7).toNat_lt
    have hindex : index data 7 = (.ok (data.byteAt 7) : Work SenseError UInt8) := index_eq (by omega)
    have hsum : add senseHeaderLength (data.byteAt 7).toNat = (.ok (8 + (data.byteAt 7).toNat) : Work SenseError Nat) :=
      add_eq (by rw [senseHeaderLength]; omega)
    have hwindow : range (zeros senseLength) 0 (copiedLength data)
        = (.ok ((zeros senseLength).slice 0 (copiedLength data)) : Work SenseError Bytes) :=
      range_eq (Nat.zero_le _) (by rw [length_zeros, copiedLength]; omega)
    have hhead : range data 0 (copiedLength data) = (.ok (data.slice 0 (copiedLength data)) : Work SenseError Bytes) :=
      range_eq (Nat.zero_le _) (by rw [copiedLength]; omega)
    have hcopy : copy ((zeros senseLength).slice 0 (copiedLength data)) (data.slice 0 (copiedLength data))
        = (.ok (data.slice 0 (copiedLength data)) : Work SenseError Bytes) := by
      apply copy_eq
      rw [length_slice_copied, length_slice]
      rw [length_zeros, copiedLength]
      omega
    have hread : readData ((zeros senseLength).overwrite 0 (data.slice 0 (copiedLength data)))
        = some (stored data) := by
      rw [readData, if_pos (length_overwrite_zeros data), overwrite_zeros, stored]
    rw [decode, if_neg hshort, if_neg (show ¬ data.length < 8 from hshort), bind_ok _ hindex, bind_ok _ hsum,
      ← copiedLength]
    dsimp only
    rw [bind_ok _ hwindow, bind_ok _ hhead, bind_ok _ hcopy, hread, judged]
    dsimp only
    split
    · rfl
    · split <;> rfl

end Stepwise

/-! ## What decoding depends on -/

/-- Strings with the same visible bytes, zeros after them, decode to the same. -/
theorem decode_congr {data other : Bytes} (hlen : 8 ≤ data.length) (hother : 8 ≤ other.length)
    (hhead : data.take 8 = other.take 8)
    (hrest : ∀ i, 8 ≤ i → i < min 18 (8 + (data.byteAt 7).toNat) → data.byteAt i = other.byteAt i) :
    decode data = decode other := by
  rw [decode_eq, decode_eq, if_neg (Nat.not_lt.2 hlen), if_neg (Nat.not_lt.2 hother), stored_congr hhead hrest]

theorem readFrom_of_decode {data : Bytes} {s : FixedSense} (h : decode data = .ok s) : s.ReadFrom (visible data) := by
  obtain ⟨rfl, -⟩ := decode_eq_ok_iff.1 h
  exact readFrom_window (visible data)

/-- Any error is of the kinds that a short string and a response code give. -/
theorem exists_error_iff {data : Bytes} :
    (∃ e, decode data = .error e) ↔ data.length < 8 ∨ (data.byteAt 0).toNat % 2 ^ 7 ∉ [0x70, 0x71] := by
  have hok : (∃ s, decode data = .ok s) ↔ 8 ≤ data.length ∧ (data.byteAt 0).toNat % 2 ^ 7 ∈ [0x70, 0x71] := by
    simp only [decode_eq_ok_iff, exists_eq_left]
  rw [← Nat.not_le, ← not_and_or, ← hok]
  cases decode data <;> simp

/-- **Sense data up to its declared length.**

Decoding fails only for a string of fewer than 8 bytes or a response code that is not one of the fixed format, and what
the error reports is the case. Otherwise every field is what the bytes up to the declared length say, so that a field
that begins past that length, or past the end of the string, is zero. What follows that length makes no difference.
Done step by step, all this ends in the same way: no index or range is out of bounds, and every copy has the length of
what it replaces. -/
theorem declared_length_exact (data : Bytes) :
    (∀ other : Bytes, 8 ≤ data.length → 8 ≤ other.length → data.take 8 = other.take 8 →
      (∀ i, 8 ≤ i → i < min 18 (8 + (data.byteAt 7).toNat) → data.byteAt i = other.byteAt i) →
      decode data = decode other)
    ∧ ((∃ e, decode data = .error e) ↔ data.length < 8 ∨ (data.byteAt 0).toNat % 2 ^ 7 ∉ [0x70, 0x71])
    ∧ (∀ e, decode data = .error e ↔ e.Explains data)
    ∧ (∀ s, decode data = .ok s →
      s.ReadFrom (visible data)
        ∧ ∀ field ∈ s.fields, 8 + (data.byteAt 7).toNat ≤ field.1 ∨ data.length ≤ field.1 → field.2 = 0)
    ∧ Stepwise.decode data = (decode data).mapError .refused := by
  refine ⟨fun other => decode_congr, exists_error_iff, fun e => decode_eq_error_iff, fun s hs => ?_,
    Stepwise.decode_eq data⟩
  have hread := readFrom_of_decode hs
  refine ⟨hread, fun field hfield hpast => hread.eq_zero hfield ?_⟩
  rw [length_visible]
  omega

/-- A declared length of 10 cuts the command-specific information in the middle, and the code after it is not visible,
though the string has it. The same bytes without what follows decode to the same, and a shorter string is refused. -/
theorem declared_length_exact_cut :
    (let long : Bytes := [0xf1, 0, 0x23, 1, 2, 3, 4, 2, 0xaa, 0xbb, 0xcc, 0xdd, 0x11, 0x04, 9, 8, 7, 6, 5]
    let short : Bytes := [0xf1, 0, 0x23, 1, 2, 3, 4, 2, 0xaa, 0xbb]
    ∃ s, decode long = .ok s ∧ decode short = .ok s ∧ s.commandSpecific = 0xaabb0000 ∧ s.code = 0
      ∧ Stepwise.decode long = .ok s ∧ decode (short.take 7) = .error (.tooShort 7)) := by
  intro long short
  obtain ⟨hcongr, -, -, hok, hrun⟩ := declared_length_exact long
  obtain ⟨-, -, hrefused, -⟩ := declared_length_exact (short.take 7)
  have hshort : decode long = decode short := hcongr short (by decide) (by decide) (by decide) (by decide)
  obtain ⟨s, hs⟩ : ∃ s, decode long = .ok s := ⟨_, decode_eq_ok_iff.2 ⟨rfl, by decide, by decide⟩⟩
  obtain ⟨hread, hzero⟩ := hok s hs
  have hcut : s.commandSpecific.toNat = 0xaabb0000 := hread.commandSpecific.trans (by decide)
  have hcode : s.code.toNat = 0 := hzero (12, s.code.toNat) (by simp [fields]) (.inl (show 8 + 2 ≤ 12 by decide))
  rw [hs] at hrun
  exact ⟨s, hs, hshort ▸ hs, UInt32.toNat_inj.1 hcut, UInt8.toNat_inj.1 hcode, hrun,
    (hrefused (.tooShort 7)).2 ⟨rfl, by decide⟩⟩

end FixedSense

end Scsi

end StorageCommands
