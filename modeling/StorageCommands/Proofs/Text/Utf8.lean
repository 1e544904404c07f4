import StorageCommands.Text.Utf8

/-!
# Reading what was written in UTF-8

- The UTF-8 form of a character, followed by anything, reads as that character (`decodeFrom_encodeChar`): the first
  byte opens a character of its length (`decodeFrom_lead`), and each further byte lies in the range that is open
  (`decodeFrom_last`, `decodeFrom_next`).
- Hence the UTF-8 form of a text reads as the text (`decode_encode`), also with more bytes behind it
  (`decodeFrom_encode`). The bytes that are the form of some text are `Valid`, and reading them loses nothing.
-/

namespace StorageCommands

namespace Utf8

/-! ## One byte -/

/-- A first byte that stands for itself. -/
theorem decodeFrom_ascii {b : UInt8} (bs : Bytes) (h : b.toNat < 0x80) :
    decodeFrom .none (b :: bs) = Char.ofNat b.toNat :: decodeFrom .none bs := by
  simp [decodeFrom, advance, begin, h]

/-- A first byte that opens a character. -/
theorem decodeFrom_lead {b : UInt8} (bs : Bytes) {bits low high more : Nat}
    (h : begin b = ([], .inside bits low high more)) :
    decodeFrom .none (b :: bs) = decodeFrom (.inside bits low high more) bs := by
  simp [decodeFrom, advance, h]

/-- The last byte of a character. -/
theorem decodeFrom_last {b : UInt8} (bs : Bytes) {bits low high : Nat} (h : low ≤ b.toNat ∧ b.toNat ≤ high) :
    decodeFrom (.inside bits low high 0) (b :: bs)
      = Char.ofNat (64 * bits + (b.toNat - 0x80)) :: decodeFrom .none bs := by
  simp [decodeFrom, advance, h]

/-- A byte in the middle of a character. -/
theorem decodeFrom_next {b : UInt8} (bs : Bytes) {bits low high more : Nat} (h : low ≤ b.toNat ∧ b.toNat ≤ high) :
    decodeFrom (.inside bits low high (more + 1)) (b :: bs)
      = decodeFrom (.inside (64 * bits + (b.toNat - 0x80)) 0x80 0xbf more) bs := by
  simp [decodeFrom, advance, h]

theorem begin_two {b : UInt8} (h : 0xc2 ≤ b.toNat ∧ b.toNat < 0xe0) :
    begin b = ([], .inside (b.toNat - 0xc0) 0x80 0xbf 0) := by
  simp only [begin]
  rw [if_neg (by omega), if_neg (by omega), if_pos h.2]

/-- The first of three bytes; the next one is restricted where the character would have a shorter form or be a
surrogate. -/
theorem begin_three {b : UInt8} (h : 0xe0 ≤ b.toNat ∧ b.toNat < 0xf0) :
    ∃ low high, begin b = ([], .inside (b.toNat - 0xe0) low high 1) ∧ ∀ n, 0x80 ≤ n → n ≤ 0xbf →
      (b.toNat = 0xe0 → 0xa0 ≤ n) → (b.toNat = 0xed → n ≤ 0x9f) → low ≤ n ∧ n ≤ high := by
  simp only [begin]
  rw [if_neg (by omega), if_neg (by omega), if_neg (by omega)]
  by_cases h0 : b.toNat = 0xe0
  · exact ⟨0xa0, 0xbf, by simp [h0], fun n _ h2 h3 _ => ⟨h3 h0, h2⟩⟩
  · by_cases hd : b.toNat = 0xed
    · exact ⟨0x80, 0x9f, by simp [hd], fun n h1 _ _ h4 => ⟨h1, h4 hd⟩⟩
    · exact ⟨0x80, 0xbf, by simp [h0, hd, h.2], fun n h1 h2 _ _ => ⟨h1, h2⟩⟩

/-- The first of four bytes; the next one is restricted where the character would have a shorter form or lie past the
last one. -/
theorem begin_four {b : UInt8} (h : 0xf0 ≤ b.toNat ∧ b.toNat ≤ 0xf4) :
    ∃ low high, begin b = ([], .inside (b.toNat - 0xf0) low high 2) ∧ ∀ n, 0x80 ≤ n → n ≤ 0xbf →
      (b.toNat = 0xf0 → 0x90 ≤ n) → (b.toNat = 0xf4 → n ≤ 0x8f) → low ≤ n ∧ n ≤ high := by
  simp only [begin]
  rw [if_neg (by omega), if_neg (by omega), if_neg (by omega), if_neg (by omega), if_neg (by omega),
    if_neg (by omega)]
  by_cases h0 : b.toNat = 0xf0
  · exact ⟨0x90, 0xbf, by simp [h0], fun n _ h2 h3 _ => ⟨h3 h0, h2⟩⟩
  · by_cases h4 : b.toNat = 0xf4
    · exact ⟨0x80, 0x8f, by simp [h4], fun n h1 _ _ h4' => ⟨h1, h4' h4⟩⟩
    · exact ⟨0x80, 0xbf, by simp [h0, show b.toNat < 0xf4 by omega], fun n h1 h2 _ _ => ⟨h1, h2⟩⟩

/-! ## One character -/

theorem toNat_ofNat_byte {n : Nat} (h : n < 256) : (UInt8.ofNat n).toNat = n := by
  rw [UInt8.toNat_ofNat', Nat.mod_eq_of_lt h]

/-- **The UTF-8 form of a character reads as that character**, whatever follows it. -/
theorem decodeFrom_encodeChar (c : Char) (rest : Bytes) :
    decodeFrom .none (String.utf8EncodeChar c ++ rest) = c :: decodeFrom .none rest := by
  have hv : c.val.toNat < 0xd800 ∨ 0xdfff < c.val.toNat ∧ c.val.toNat < 0x110000 := c.valid
  have hc : Char.ofNat c.val.toNat = c := Char.ofNat_toNat c
  unfold String.utf8EncodeChar
  generalize c.val.toNat = v at hv hc ⊢
  dsimp only
  split
  · rw [List.singleton_append, decodeFrom_ascii _ (by rw [toNat_ofNat_byte] <;> omega),
      toNat_ofNat_byte (by omega), hc]
  split
  · have h0 := toNat_ofNat_byte (n := v / 64 % 32 + 192) (by omega)
    have h1 := toNat_ofNat_byte (n := v % 64 + 128) (by omega)
    rw [List.cons_append, List.cons_append, decodeFrom_lead _ (begin_two (by omega)), decodeFrom_last _ (by omega),
      h0, h1, show 64 * (v / 64 % 32 + 192 - 192) + (v % 64 + 128 - 128) = v by omega, hc]
    rfl
  split
  · have h0 := toNat_ofNat_byte (n := v / 4096 % 16 + 224) (by omega)
    have h1 := toNat_ofNat_byte (n := v / 64 % 64 + 128) (by omega)
    have h2 := toNat_ofNat_byte (n := v % 64 + 128) (by omega)
    obtain ⟨low, high, hb, hn⟩ := begin_three (b := UInt8.ofNat (v / 4096 % 16 + 224)) (by omega)
    have hr := hn (v / 64 % 64 + 128) (by omega) (by omega) (by omega) (by omega)
    rw [List.cons_append, List.cons_append, List.cons_append, decodeFrom_lead _ hb,
      decodeFrom_next _ (by rw [h1]; exact hr), decodeFrom_last _ (by omega), h0, h1, h2,
      show 64 * (64 * (v / 4096 % 16 + 224 - 224) + (v / 64 % 64 + 128 - 128)) + (v % 64 + 128 - 128) = v by omega, hc]
    rfl
  · have h0 := toNat_ofNat_byte (n := v / 262144 % 8 + 240) (by omega)
    have h1 := toNat_ofNat_byte (n := v / 4096 % 64 + 128) (by omega)
    have h2 := toNat_ofNat_byte (n := v / 64 % 64 + 128) (by omega)
    have h3 := toNat_ofNat_byte (n := v % 64 + 128) (by omega)
    obtain ⟨low, high, hb, hn⟩ := begin_four (b := UInt8.ofNat (v / 262144 % 8 + 240)) (by omega)
    have hr := hn (v / 4096 % 64 + 128) (by omega) (by omega) (by omega) (by omega)
    rw [List.cons_append, List.cons_append, List.cons_append, List.cons_append, decodeFrom_lead _ hb,
      decodeFrom_next _ (by rw [h1]; exact hr), decodeFrom_next _ (by omega), decodeFrom_last _ (by omega),
      h0, h1, h2, h3,
      show 64 * (64 * (64 * (v / 262144 % 8 + 240 - 240) + (v / 4096 % 64 + 128 - 128)) + (v / 64 % 64 + 128 - 128))
        + (v % 64 + 128 - 128) = v by omega, hc]
    rfl

/-! ## Texts -/

theorem decodeFrom_encode (cs : List Char) (rest : Bytes) :
    decodeFrom .none (cs.flatMap String.utf8EncodeChar ++ rest) = cs ++ decodeFrom .none rest := by
  induction cs with
  | nil => rfl
  | cons c cs ih => rw [List.flatMap_cons, List.append_assoc, decodeFrom_encodeChar, ih, List.cons_append]

/-- A text in UTF-8 reads as that text. -/
theorem decode_encode (s : String) : decode (encode s) = s.toList := by
  calc decode (encode s)
    _ = decodeFrom .none (encode s ++ []) := by rw [List.append_nil, decode]
    _ = s.toList ++ [] := decodeFrom_encode s.toList []
    _ = s.toList := List.append_nil _

/-- The bytes are a text in UTF-8. -/
def Valid (b : Bytes) : Prop := ∃ s, encode s = b

instance (b : Bytes) : Decidable (Valid b) :=
  decidable_of_iff (encode (String.ofList (decode b)) = b) ⟨fun h => ⟨_, h⟩, by
    rintro ⟨s, rfl⟩
    rw [decode_encode, String.ofList_toList]⟩

end Utf8

end StorageCommands
