import Mathlib.Data.List.DropRight
import StorageCommands.Proofs.Text.Utf8
import StorageCommands.Text.Padded

/-!
# Padding that does not count

A range that is filled up at its end holds the UTF-8 form of a text and then padding bytes, NULs and spaces in any mix.

- Reading such a range gives the text, unless that ends in padding itself (`ofBytes_encode_append`).
- Every range of valid UTF-8 is such a range, of the text that it reads as (`exists_padding`), and that text does not
  end in padding (`isPadding_getLast_ofBytes`).
- So the texts that a filled-up range gives back are those that are `EndsClear`, and those that are `Clear` if the
  padding is dropped at both ends (`ofBytes_eq_iff`, `trim_eq_iff`).
-/

namespace StorageCommands.Padded

/-- The bytes that fill up a range. -/
def isPaddingByte (x : UInt8) : Bool := x = 0 || x = 0x20

/-! ## Characters -/

/-- Padding at the end does not count. -/
theorem trimEnd_append {cs pad : List Char} (h : ∀ c ∈ pad, isPadding c = true) : trimEnd (cs ++ pad) = trimEnd cs := by
  rw [trimEnd, List.reverse_append, List.dropWhile_append_of_pos, ← trimEnd]
  intro c hc
  exact h c (List.mem_reverse.1 hc)

/-- Nothing is dropped from a text that does not end in padding. -/
theorem trimEnd_of_getLast {cs : List Char} (h : ∀ c ∈ cs.getLast?, isPadding c = false) : trimEnd cs = cs := by
  refine List.rdropWhile_eq_self_iff.2 fun hne => ?_
  rw [h _ (List.getLast?_eq_getLast_of_ne_nil hne)]
  exact Bool.false_ne_true

/-- What is dropped is padding. -/
theorem exists_trimEnd_append (cs : List Char) : ∃ pad, cs = trimEnd cs ++ pad ∧ ∀ c ∈ pad, isPadding c = true :=
  ⟨cs.rtakeWhile isPadding, (List.rdropWhile_append_rtakeWhile ..).symm, fun _ hc => List.mem_rtakeWhile_imp hc⟩

/-- What is left does not end in padding. -/
theorem isPadding_getLast_trimEnd (cs : List Char) : ∀ c ∈ (trimEnd cs).getLast?, isPadding c = false := by
  intro c hc
  have hne : trimEnd cs ≠ [] := by
    rintro hnil
    rw [hnil] at hc
    cases hc
  rw [List.getLast?_eq_getLast_of_ne_nil hne] at hc
  cases hc
  exact Bool.eq_false_iff.2 (List.rdropWhile_last_not isPadding cs hne)

/-- A text that does not end in padding. -/
def EndsClear (s : String) : Prop := ∀ c ∈ s.toList.getLast?, isPadding c = false

/-- A text that neither starts nor ends in padding. -/
structure Clear (s : String) : Prop where
  starts : ∀ c ∈ s.toList.head?, isPadding c = false
  ends : EndsClear s

/-- With both ends dropped, padding at the end does not count either. -/
theorem trim_append {cs pad : List Char} (h : ∀ c ∈ pad, isPadding c = true) : trim (cs ++ pad) = trim cs := by
  rw [trim, trim, List.dropWhile_append]
  split
  case isTrue hnil =>
    rw [List.dropWhile_eq_nil_iff.2 h, List.isEmpty_iff.1 hnil]
  case isFalse => exact trimEnd_append h

/-- Nothing is dropped from a text that is clear at both ends. -/
theorem trim_of_clear {s : String} (h : Clear s) : trim s.toList = s.toList := by
  have hdrop : s.toList.dropWhile isPadding = s.toList := by
    have hstarts := h.starts
    cases hcs : s.toList with
    | nil => rfl
    | cons c cs =>
      rw [hcs] at hstarts
      rw [List.dropWhile_cons, hstarts c rfl]
      rfl
  rw [trim, hdrop, trimEnd_of_getLast h.ends]

/-- What is left between the ends is clear. -/
theorem clear_trim (cs : List Char) : Clear (String.ofList (trim cs)) := by
  constructor
  · intro c hc
    rw [String.toList_ofList, trim] at hc
    obtain ⟨pad, hpad, -⟩ := exists_trimEnd_append (cs.dropWhile isPadding)
    have hhead : (cs.dropWhile isPadding).head? = some c := by
      rw [hpad, List.head?_append, Option.mem_def.1 hc, Option.some_or]
    have hnot := List.head?_dropWhile_not isPadding cs
    rw [hhead] at hnot
    exact hnot
  · rw [EndsClear, String.toList_ofList]
    exact isPadding_getLast_trimEnd _

/-! ## Bytes -/

/-- Padding bytes read as padding. -/
theorem decodeFrom_padding {pad : Bytes} (h : ∀ x ∈ pad, isPaddingByte x = true) :
    ∀ c ∈ Utf8.decodeFrom .none pad, isPadding c = true := by
  induction pad with
  | nil => exact fun c hc => by cases hc
  | cons x pad ih =>
    obtain ⟨hx, hpad⟩ := List.forall_mem_cons.1 h
    simp only [isPaddingByte, Bool.or_eq_true, decide_eq_true_eq] at hx
    have hascii : x.toNat < 0x80 := by rcases hx with rfl | rfl <;> decide
    rw [Utf8.decodeFrom_ascii _ hascii, List.forall_mem_cons]
    refine ⟨?_, ih hpad⟩
    rcases hx with rfl | rfl <;> decide

/-- The UTF-8 form of padding is padding bytes. -/
theorem encode_padding {cs : List Char} (h : ∀ c ∈ cs, isPadding c = true) :
    ∀ x ∈ cs.flatMap String.utf8EncodeChar, isPaddingByte x = true := by
  intro x hx
  obtain ⟨c, hc, hx⟩ := List.mem_flatMap.1 hx
  have hpad := h c hc
  simp only [isPadding, Bool.or_eq_true, decide_eq_true_eq] at hpad
  rcases hpad with rfl | rfl
  · cases List.mem_singleton.1 hx
    rfl
  · cases List.mem_singleton.1 hx
    rfl

/-! ## Ranges -/

/-- **A text survives being filled up**, unless it ends in padding itself. -/
theorem ofBytes_encode_append {s : String} {pad : Bytes} (h : ∀ c ∈ s.toList.getLast?, isPadding c = false)
    (hp : ∀ x ∈ pad, isPaddingByte x = true) : ofBytes (Utf8.encode s ++ pad) = s := by
  rw [ofBytes, Utf8.decode, Utf8.encode, Utf8.decodeFrom_encode, trimEnd_append (decodeFrom_padding hp),
    trimEnd_of_getLast h, String.ofList_toList]

/-- The text in a range does not end in padding. -/
theorem isPadding_getLast_ofBytes (b : Bytes) : ∀ c ∈ (ofBytes b).toList.getLast?, isPadding c = false := by
  rw [ofBytes, String.toList_ofList]
  exact isPadding_getLast_trimEnd _

/-- **Valid UTF-8 is the text that it reads as, filled up.** -/
theorem exists_padding {b : Bytes} (h : Utf8.Valid b) :
    ∃ pad, b = Utf8.encode (ofBytes b) ++ pad ∧ ∀ x ∈ pad, isPaddingByte x = true := by
  obtain ⟨s, rfl⟩ := h
  obtain ⟨pad, hpad, hall⟩ := exists_trimEnd_append s.toList
  refine ⟨pad.flatMap String.utf8EncodeChar, ?_, encode_padding hall⟩
  rw [ofBytes, Utf8.decode_encode, Utf8.encode, Utf8.encode, String.toList_ofList, ← List.flatMap_append, ← hpad]

/-- The UTF-8 form of a text, and padding bytes after it. -/
def FilledUp (s : String) (b : Bytes) : Prop := ∃ pad, b = Utf8.encode s ++ pad ∧ ∀ x ∈ pad, isPaddingByte x = true

variable {s : String} {b : Bytes}

/-- **Dropping padding at the end** gives the text back exactly if it does not end in padding. -/
theorem ofBytes_eq_iff (h : FilledUp s b) : ofBytes b = s ↔ EndsClear s := by
  obtain ⟨pad, rfl, hpad⟩ := h
  constructor
  · intro hs
    rw [← hs]
    exact isPadding_getLast_ofBytes _
  · exact fun hclear => ofBytes_encode_append hclear hpad

/-- **Dropping padding at both ends** gives the text back exactly if it is clear at both. -/
theorem trim_eq_iff (h : FilledUp s b) : String.ofList (trim (Utf8.decode b)) = s ↔ Clear s := by
  obtain ⟨pad, rfl, hpad⟩ := h
  constructor
  · intro hs
    rw [← hs]
    exact clear_trim _
  · intro hclear
    rw [Utf8.decode, Utf8.encode, Utf8.decodeFrom_encode, trim_append (decodeFrom_padding hpad), trim_of_clear hclear,
      String.ofList_toList]

end StorageCommands.Padded
