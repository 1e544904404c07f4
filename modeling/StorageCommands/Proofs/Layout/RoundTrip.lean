import Mathlib.Data.List.Pairwise
import StorageCommands.Catalogue
import StorageCommands.Proofs.Layout.Tables

/-!
# The round trip of a table

A table is `Separated` if it lists no field twice and its fields share no bits. Values `Fill` a table if they give
exactly its fields, in any order, each a value in the form in which the field gives it back. Values that fill a
separated table are encoded into zeros without an error, and decoding gives them back. Every table of the catalogue is
separated (`catalogue_separated`): `separated_tables_round_trip`.

The order of the values is immaterial: each is checked and written on its own (`encode_eq_ok_iff`), the writes are of
disjoint fields (`located_disjoint`), and so each field reads its own value whatever else was written
(`read_of_encode`).
-/

namespace StorageCommands.Layout

open Bytes

variable {ι : Type}

/-! ## Separated tables -/

namespace Table

/-- The table lists no field twice, and its fields share no bits. -/
structure Separated (t : Table ι) : Prop where
  nodup : (t.fields.map Prod.fst).Nodup
  disjoint : t.fields.Pairwise fun f g => f.2.Disjoint g.2

theorem Separated.disjoint_of_ne {t : Table ι} (ht : t.Separated) {f g : ι × Spec} (hf : f ∈ t.fields)
    (hg : g ∈ t.fields) (h : f.1 ≠ g.1) : f.2.Disjoint g.2 := by
  have : Std.Symm fun f g : ι × Spec => f.2.Disjoint g.2 := ⟨fun _ _ h => h.symm⟩
  exact ht.disjoint.forall hf hg fun he => h (congrArg Prod.fst he)

end Table

variable [DecidableEq ι]

/-! ## Look-up -/

/-- A set without two entries for one field finds every entry. -/
theorem Values.get?_of_mem {values : Values ι} (hn : (values.entries.map Prod.fst).Nodup) {e : ι × Value}
    (h : e ∈ values.entries) : values.get? e.1 = some e.2 := by
  rw [get?]
  cases hf : values.entries.find? fun x => x.1 = e.1 with
  | none =>
    have := List.find?_eq_none.1 hf e h
    simp at this
  | some x =>
    have hx : x.1 = e.1 := by simpa using List.find?_some hf
    rw [List.inj_on_of_nodup_map hn (List.mem_of_find?_eq_some hf) h hx]
    rfl

/-- A set finds no field that has no entry. -/
theorem Values.get?_eq_none {values : Values ι} {id : ι} (h : id ∉ values.entries.map Prod.fst) :
    values.get? id = none := by
  rw [get?, Option.map_eq_none_iff, List.find?_eq_none]
  intro e he hid
  have hid : e.1 = id := by simpa using hid
  exact h (List.mem_map.2 ⟨e, he, hid⟩)

/-! ## Values that fill a table -/

namespace Table

instance (t : Table ι) : Decidable t.Separated :=
  decidable_of_iff ((t.fields.map Prod.fst).Nodup ∧ t.fields.Pairwise fun f g => f.2.Disjoint g.2)
    ⟨fun h => ⟨h.1, h.2⟩, fun h => ⟨h.nodup, h.disjoint⟩⟩

/-- The values give exactly the fields of the table, in any order, and each field gives its value back. -/
structure Fill (t : Table ι) (values : Values ι) : Prop where
  ids : (values.entries.map Prod.fst).Perm (t.fields.map Prod.fst)
  canonical : ∀ e ∈ values.entries, ∀ s ∈ t.spec? e.1, s.Canonical e.2

instance (t : Table ι) (values : Values ι) : Decidable (t.Fill values) :=
  decidable_of_iff ((values.entries.map Prod.fst).Perm (t.fields.map Prod.fst)
      ∧ ∀ e ∈ values.entries, ∀ s ∈ t.spec? e.1, s.Canonical e.2)
    ⟨fun h => ⟨h.1, h.2⟩, fun h => ⟨h.ids, h.canonical⟩⟩

/-- The writes of entries for different fields are of fields that share no bits. -/
theorem Separated.located_disjoint {t : Table ι} (ht : t.Separated) {entries : List (ι × Value)}
    (hn : (entries.map Prod.fst).Nodup) : (t.located entries).Pairwise fun w x => w.1.Disjoint x.1 := by
  rw [located, List.pairwise_filterMap]
  refine List.Pairwise.imp ?_ (List.pairwise_map.1 hn)
  intro e e' hne w hw x hx
  obtain ⟨s, hs, rfl⟩ := Option.map_eq_some_iff.1 hw
  obtain ⟨s', hs', rfl⟩ := Option.map_eq_some_iff.1 hx
  exact ht.disjoint_of_ne (mem_of_spec? hs) (mem_of_spec? hs') hne

/-- **What encoding into zeros leaves behind**: every field that was given a value reads it. -/
theorem Separated.read_of_encode [Named ι] {t : Table ι} (ht : t.Separated) {values : Values ι} {n : Nat} {b : Bytes}
    (hn : (values.entries.map Prod.fst).Nodup)
    (hc : ∀ e ∈ values.entries, ∀ s ∈ t.spec? e.1, s.Canonical e.2) (hb : t.encode values (zeros n) = .ok b)
    {e : ι × Value} (he : e ∈ values.entries) {s : Spec} (hs : t.spec? e.1 = some s) : s.read b = e.2 := by
  obtain ⟨hchecks, rfl⟩ := encode_eq_ok_iff.1 hb
  have hstop : ∀ w ∈ t.located values.entries, w.1.stop ≤ (zeros n).length := by
    intro w hw
    obtain ⟨id, hid, hs⟩ := mem_located.1 hw
    exact (Spec.check_eq_ok_iff.1 (hchecks (id, w.2) hid w.1 hs)).1
  have hcanonical : ∀ w ∈ t.located values.entries, w.1.Canonical w.2 := by
    intro w hw
    obtain ⟨id, hid, hs⟩ := mem_located.1 hw
    exact hc (id, w.2) hid w.1 hs
  have hw : (s, e.2) ∈ t.located values.entries := mem_located.2 ⟨e.1, he, hs⟩
  exact read_writeAll hstop hcanonical (ht.located_disjoint hn) (fun _ _ _ _ => bitAt_zeros ..) (s, e.2) hw

/-- Encoding keeps the length of the buffer. -/
theorem length_of_encode [Named ι] {t : Table ι} {values : Values ι} {b c : Bytes} (h : t.encode values b = .ok c) :
    c.length = b.length := by
  obtain ⟨hchecks, rfl⟩ := encode_eq_ok_iff.1 h
  refine length_writeAll fun w hw => ?_
  obtain ⟨id, hid, hs⟩ := mem_located.1 hw
  exact (Spec.check_eq_ok_iff.1 (hchecks (id, w.2) hid w.1 hs)).1

/-- Encoding changes no bit that no field covers. -/
theorem bitAt_of_encode_of_not_covers [Named ι] {t : Table ι} {values : Values ι} {b c : Bytes} {pos : Nat}
    (h : t.encode values b = .ok c) (hp : ∀ f ∈ t.fields, f.2.covers pos = false) : c.bitAt pos = b.bitAt pos := by
  obtain ⟨hchecks, rfl⟩ := encode_eq_ok_iff.1 h
  refine bitAt_writeAll_of_not_covers (fun w hw => ?_) fun w hw => ?_
  · obtain ⟨id, hid, hs⟩ := mem_located.1 hw
    exact (Spec.check_eq_ok_iff.1 (hchecks (id, w.2) hid w.1 hs)).1
  · obtain ⟨id, -, hs⟩ := mem_located.1 hw
    exact hp (id, w.1) (mem_of_spec? hs)

namespace Fill

variable {t : Table ι} {values : Values ι} {n : Nat}

theorem entries_nodup (h : t.Fill values) (ht : t.Separated) : (values.entries.map Prod.fst).Nodup :=
  h.ids.nodup_iff.2 ht.nodup

/-- Every field of the table has an entry. -/
theorem exists_entry (h : t.Fill values) {f : ι × Spec} (hf : f ∈ t.fields) : ∃ v, (f.1, v) ∈ values.entries := by
  obtain ⟨e, he, hid⟩ := List.mem_map.1 (h.ids.mem_iff.2 (List.mem_map.2 ⟨f, hf, rfl⟩))
  exact ⟨e.2, hid ▸ he⟩

/-- Every value is stored. -/
theorem exists_encode [Named ι] (h : t.Fill values) (hn : t.minLength ≤ n) :
    ∃ b, t.encode values (zeros n) = .ok b := by
  refine ⟨_, encode_eq_ok_iff.2 ⟨fun e he s hs => (h.canonical e he s hs).check ?_ _, rfl⟩⟩
  rw [length_zeros]
  exact Nat.le_trans (stop_le_minLength (mem_of_spec? hs)) hn

/-- Every field reads the value of its entry. -/
theorem get?_eq_read [Named ι] (h : t.Fill values) (ht : t.Separated) {b : Bytes}
    (hb : t.encode values (zeros n) = .ok b) {f : ι × Spec} (hf : f ∈ t.fields) :
    values.get? f.1 = some (f.2.read b) := by
  obtain ⟨v, hv⟩ := h.exists_entry hf
  have hn := h.entries_nodup ht
  rw [Values.get?_of_mem hn hv, ht.read_of_encode hn h.canonical hb hv (spec?_of_mem ht.nodup hf)]

end Fill

/-- **One table**: values that fill a separated table survive encoding into zeros and decoding. -/
theorem Separated.decode_encode [Named ι] {t : Table ι} (ht : t.Separated) {values : Values ι} (h : t.Fill values)
    {n : Nat} (hn : t.minLength ≤ n) :
    ∃ b decoded, t.encode values (zeros n) = .ok b ∧ b.length = n ∧ t.decode b = .ok decoded
      ∧ (decoded == values) = true ∧ ∀ id, decoded.get? id = values.get? id := by
  obtain ⟨b, hb⟩ := h.exists_encode hn
  have hl : b.length = n := by rw [length_of_encode hb, length_zeros]
  have hread : ∀ f ∈ t.fields, values.get? f.1 = some (f.2.read b) := fun f hf => h.get?_eq_read ht hb hf
  refine ⟨b, _, hb, hl, decode_eq_ok (by rw [hl]; exact hn), ?_, fun id => ?_⟩
  · have hsize : t.fields.length = values.entries.length := by
      simpa only [List.length_map] using h.ids.length_eq.symm
    change Values.agree _ _ = true
    simp only [Values.agree, Values.size, List.length_map, hsize, decide_true, Bool.true_and, List.all_map,
      List.all_eq_true, Function.comp_apply, decide_eq_true_eq]
    exact hread
  · have hids : (t.fields.map fun f => (f.1, f.2.read b)).map Prod.fst = t.fields.map Prod.fst := by
      rw [List.map_map]
      rfl
    by_cases hid : id ∈ t.fields.map Prod.fst
    · obtain ⟨f, hf, rfl⟩ := List.mem_map.1 hid
      rw [hread f hf]
      exact Values.get?_of_mem (by rw [hids]; exact ht.nodup) (List.mem_map.2 ⟨f, hf, rfl⟩)
    · rw [Values.get?_eq_none (by rw [hids]; exact hid), Values.get?_eq_none fun hc => hid (h.ids.mem_iff.1 hc)]

end Table

/-! ## The catalogue -/

set_option maxRecDepth 10000 in
/-- The tables of the catalogue list no field twice, their fields share no bits, and these are ones that can be built
and end within a machine word. -/
theorem catalogue_separated :
    ∀ e ∈ Catalogue.tables, e.2.Separated ∧ ∀ f ∈ e.2.fields, f.2.WellFormed ∧ f.2.stop < 2 ^ 64 := by
  decide +kernel

/-- **The round trip**: values that fill a separated table are encoded into zeros without an error, and decoding gives
them back. The tables of the catalogue are separated, and their fields are ones that can be built. -/
theorem separated_tables_round_trip :
    (∀ (κ : Type) [DecidableEq κ] [Named κ] (t : Table κ), t.Separated → ∀ n, t.minLength ≤ n →
      ∀ values, t.Fill values → ∃ b decoded, t.encode values (zeros n) = .ok b ∧ b.length = n
        ∧ t.decode b = .ok decoded ∧ (decoded == values) = true ∧ ∀ id, decoded.get? id = values.get? id)
    ∧ ∀ e ∈ Catalogue.tables, e.2.Separated ∧ ∀ f ∈ e.2.fields, f.2.WellFormed ∧ f.2.stop < 2 ^ 64 :=
  ⟨fun _ _ _ _ ht _ hn _ h => ht.decode_encode h hn, catalogue_separated⟩

/-- Two masks with holes that share bytes, in both byte orders, beside an integer, a text and a bit range. -/
def interleavedTable : Table String :=
  ⟨[("odd", .mask 0 0xA55A .big), ("even", .mask 0 0xA55A .little), ("count", .bytes 2 3 .littleEndian),
    ("name", .bytes 5 4 .text), ("bits", .bits 75 13)]⟩

/-- Values of all these fields, in another order. -/
def interleavedValues : Values String :=
  ⟨[("bits", .uint 0x1ABC), ("name", .text "né"), ("even", .uint 0x4001), ("odd", .uint 0x1225),
    ("count", .uint 0x8000FF)]⟩

theorem interleaved_round_trip :
    interleavedTable.Separated ∧ interleavedTable.minLength ≤ 12 ∧ interleavedTable.Fill interleavedValues
      ∧ ∃ b decoded, interleavedTable.encode interleavedValues (zeros 12) = .ok b ∧ b.length = 12
        ∧ interleavedTable.decode b = .ok decoded ∧ (decoded == interleavedValues) = true
        ∧ ∀ id, decoded.get? id = interleavedValues.get? id :=
  have ht : interleavedTable.Separated := by decide +kernel
  have hn : interleavedTable.minLength ≤ 12 := by decide +kernel
  have hv : interleavedTable.Fill interleavedValues := by decide +kernel
  ⟨ht, hn, hv, separated_tables_round_trip.1 String interleavedTable ht 12 hn interleavedValues hv⟩

end StorageCommands.Layout
