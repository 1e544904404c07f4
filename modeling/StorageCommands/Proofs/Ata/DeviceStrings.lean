import StorageCommands.Proofs.Ata.SectorSizes
import StorageCommands.Proofs.Text.Padded

/-!
# Strings that devices report

A device fills up a name with NULs and spaces to the length of its field. A text field drops them at the end. The
strings of a disk come with the bytes of every word swapped, which may cut a character in two; with the words put right,
padding is dropped at both ends.

- `swapPairs_swapPairs`: swapping puts right what was swapped, if no byte is left over. So a string of a disk is read as
  the range before the swap (`stringText_swapPairs_eq_iff`).
- `decodeOne_text`, `stringFields_of_decode`: the ranges that the fields are read from.

`padded_strings_recovered` puts them together.
-/

namespace StorageCommands

open Bytes Layout Padded

/-! ## Text fields -/

/-- A text field of a buffer that has it is read alone and with the others, from its range. -/
theorem Layout.Table.decodeOne_text {ι : Type} [DecidableEq ι] [Named ι] {t : Table ι} {id : ι} {offset len : Nat}
    {b : Bytes} (hs : t.spec? id = some (.bytes offset len .text)) (hb : offset + len ≤ b.length) :
    t.decodeOne id b = .ok (some (.text (ofBytes (b.slice offset len))))
      ∧ ∀ values, t.decode b = .ok values → values.get? id = some (.text (ofBytes (b.slice offset len))) := by
  have hone : t.decodeOne id b = .ok (some (.text (ofBytes (b.slice offset len)))) :=
    (Table.decodeOne_eq_ok_iff hs).2 ⟨hb, rfl⟩
  refine ⟨hone, fun values h => ?_⟩
  rw [Table.decodeOne_eq_get? h] at hone
  exact Except.ok.inj hone

namespace Ata

/-! ## Swapped pairs -/

section

variable {b : Bytes} (h : 2 ∣ b.length)
include h

/-- A second swap puts the pairs right. -/
theorem swapPairs_swapPairs : swapPairs (swapPairs b) = b := by
  induction b using swapPairs.induct with
  | case1 x y rest ih =>
    rw [List.length_cons, List.length_cons] at h
    rw [swapPairs, swapPairs, ih (by omega)]
  | case2 b hshort =>
    obtain _ | ⟨x, _ | ⟨y, rest⟩⟩ := b
    · rfl
    · rw [List.length_singleton] at h
      omega
    · exact absurd rfl (hshort x y rest)

/-- A filled-up range whose pairs were swapped gives its text back if that is clear. -/
theorem stringText_swapPairs_eq_iff {s : String} (hs : FilledUp s b) : stringText (swapPairs b) = s ↔ Clear s := by
  rw [stringText, swapPairs_swapPairs h]
  exact trim_eq_iff hs

end

/-- What a string is read as is clear. -/
theorem clear_stringText (raw : Bytes) : Clear (stringText raw) := clear_trim _

/-! ## The strings of a disk -/

namespace Identity

/-- The string fields of a description, with what is read of each. -/
def stringFields : List (IdentityField × (Identity → String)) :=
  [(.serialNumber, serialNumber), (.firmwareRevision, firmwareRevision), (.modelNumber, modelNumber)]

variable {data : Bytes}

theorem string_of_decode {v : Values IdentityField} (h : identityTable.decode data = .ok v) {id : IdentityField}
    {offset len : Nat} (hs : identityTable.spec? id = some (.bytes offset len .raw)) :
    string v id = stringText (data.slice offset len) := by
  rw [string, Values.bytes?, Table.get?_of_decode h, hs]
  rfl

/-- Each string is read from a range of whole words. -/
theorem stringFields_of_decode {d : Identity} (h : decode data = .ok d) : ∀ f ∈ stringFields, ∃ offset len,
    identityTable.spec? f.1 = some (.bytes offset len .raw) ∧ 2 ∣ len ∧ f.2 d = stringText (data.slice offset len) := by
  obtain ⟨v, hv, ⟨⟩⟩ := bind_eq_ok.1 h
  intro f hf
  simp only [stringFields, List.mem_cons, List.not_mem_nil, or_false] at hf
  rcases hf with rfl | rfl | rfl
  · exact ⟨20, 20, rfl, by decide, string_of_decode hv rfl⟩
  · exact ⟨46, 8, rfl, by decide, string_of_decode hv rfl⟩
  · exact ⟨54, 40, rfl, by decide, string_of_decode hv rfl⟩

end Identity

/-- **Padded strings are recovered.** A text that fills a range with padding after it, NULs and spaces in any mix, is
given back by a text field of any table exactly if it does not end in padding. With the pairs of the range swapped, it
is given back by a string of a disk exactly if it neither starts nor ends in padding.

Of any bytes at all, a text field gives a text that does not end in padding, and a description of a disk that has all
fields is decoded, to strings that neither start nor end in it. -/
theorem padded_strings_recovered :
    (∀ {ι : Type} [DecidableEq ι] [Named ι] (t : Table ι) (id : ι) (offset len : Nat) (b : Bytes),
      t.spec? id = some (.bytes offset len .text) → offset + len ≤ b.length →
        ∃ x, t.decodeOne id b = .ok (some (.text x))
          ∧ (∀ values, t.decode b = .ok values → values.get? id = some (.text x))
          ∧ EndsClear x
          ∧ ∀ s, FilledUp s (b.slice offset len) → (x = s ↔ EndsClear s))
      ∧ (∀ raw, Clear (stringText raw))
      ∧ (∀ padded s, 2 ∣ padded.length → FilledUp s padded → (stringText (swapPairs padded) = s ↔ Clear s))
      ∧ ∀ data, identityTable.minLength ≤ data.length → ∃ d, Identity.decode data = .ok d
        ∧ ∀ f ∈ Identity.stringFields, ∃ offset len, identityTable.spec? f.1 = some (.bytes offset len .raw)
          ∧ Clear (f.2 d)
          ∧ ∀ padded s, padded.length = len → data.slice offset len = swapPairs padded → FilledUp s padded →
            (f.2 d = s ↔ Clear s) := by
  refine ⟨fun t id offset len b hs hb => ?_, clear_stringText, fun padded s heven => stringText_swapPairs_eq_iff heven,
    fun data hdata => ?_⟩
  · obtain ⟨hone, hall⟩ := Table.decodeOne_text hs hb
    exact ⟨_, hone, hall, isPadding_getLast_ofBytes _, fun s => ofBytes_eq_iff⟩
  · obtain ⟨d, hd⟩ := Identity.exists_decode hdata
    refine ⟨d, hd, fun f hf => ?_⟩
    obtain ⟨offset, len, hspec, heven, htext⟩ := Identity.stringFields_of_decode hd f hf
    refine ⟨offset, len, hspec, ?_, fun padded s hlength hslice hs => ?_⟩
    · rw [htext]
      exact clear_stringText _
    · rw [htext, hslice]
      exact stringText_swapPairs_eq_iff (hlength ▸ heven) hs

/-- A name of seven bytes, one character of which is cut by the swap. -/
theorem padded_strings_recovered_cutCharacter : (let padded := Utf8.encode "2½ SSD" ++ 0x20 :: zeros 32
    (∃ d, Identity.decode ((zeros 512).patch [(54, swapPairs padded)]) = .ok d ∧ d.modelNumber = "2½ SSD")
      ∧ (⟨[("name", .bytes 1 40 .text)]⟩ : Table String).decodeOne "name" (0xff :: padded)
        = .ok (some (.text "2½ SSD"))) := by
  intro padded
  have hfilled : FilledUp "2½ SSD" padded := ⟨0x20 :: zeros 32, rfl, by simp [zeros, isPaddingByte]⟩
  have hclear : Clear "2½ SSD" := by
    constructor <;> simp [EndsClear, isPadding]
  obtain ⟨htext, -, -, hstring⟩ := padded_strings_recovered
  constructor
  · obtain ⟨d, hd, hfields⟩ := hstring ((zeros 512).patch [(54, swapPairs padded)]) (by decide +kernel)
    obtain ⟨offset, len, hspec, -, hall⟩ :=
      hfields (.modelNumber, Identity.modelNumber) (by simp [Identity.stringFields])
    cases hspec
    exact ⟨d, hd, (hall padded _ (by decide +kernel) (by decide +kernel) hfilled).2 hclear⟩
  · obtain ⟨x, hx, -, -, hall⟩ := htext ⟨[("name", .bytes 1 40 .text)]⟩ "name" 1 40 (0xff :: padded) rfl
      (by decide +kernel)
    have hslice : Bytes.slice (0xff :: padded) 1 40 = padded := by decide +kernel
    rw [hslice] at hall
    rw [hx, (hall _ hfilled).2 hclear.ends]

end Ata

end StorageCommands
