import Mathlib.Data.List.Perm.Basic
import StorageCommands.Proofs.Layout.Checks
import StorageCommands.Proofs.Layout.WrittenBits

/-!
# The order of writes

Two fields are `Compatible` if they share no bit or are both masks, which set bits on top of each other. What a write
leaves at a position depends on the old bit only (`bitAt_write`), so all is settled at one position: writes to
compatible fields can change places (`writeBit_comm`), and the same write a second time changes nothing
(`writeBit_self`). So a run of writes leaves what any other run of the same writes leaves, however often each is done
(`writeAll_congr`).

For tables that is `encode_comm`: two sets of values in either order, and all of their values in one set. The latter
needs that no field has two values, as a set has room for one only; `encode_comm_doubled` is a decoded set that has two.
-/

namespace StorageCommands.Layout

open Bytes

namespace Spec

/-- The fields share no bit, or both set bits on top of those that are there. -/
def Compatible (s s' : Spec) : Prop := s.Disjoint s' ∨ s.isMask = true ∧ s'.isMask = true

instance (s s' : Spec) : Decidable (s.Compatible s') := inferInstanceAs (Decidable (_ ∨ _))

theorem Disjoint.writes_eq_false {s s' : Spec} (h : s.Disjoint s') {v : Value} {pos : Nat}
    (hw : s.writes v pos = true) (v' : Value) : s'.writes v' pos = false := by
  cases hw' : s'.writes v' pos with
  | false => rfl
  | true =>
    have hcovers := h pos (covers_of_writes hw)
    rw [covers_of_writes hw'] at hcovers
    cases hcovers

/-- **One position**: compatible fields leave the same bit in either order. -/
theorem writeBit_comm {s s' : Spec} (h : s.Compatible s') (v v' : Value) (pos : Nat) (old : Bool) :
    s'.writeBit v' pos (s.writeBit v pos old) = s.writeBit v pos (s'.writeBit v' pos old) := by
  rcases h with h | ⟨hs, hs'⟩
  · cases hw : s.writes v pos with
    | false => rw [writeBit_of_not_writes hw, writeBit_of_not_writes hw]
    | true =>
      have hw' := h.writes_eq_false hw v'
      rw [writeBit_of_not_writes hw', writeBit_of_not_writes hw']
  · simp only [writeBit, hs, hs', Bool.true_and]
    cases s.writes v pos <;> cases s'.writes v' pos <;> simp only [cond_true, cond_false, Bool.or_right_comm]

/-- A write that is done a second time changes nothing. -/
theorem writeBit_self (s : Spec) (v : Value) (pos : Nat) (old : Bool) :
    s.writeBit v pos (s.writeBit v pos old) = s.writeBit v pos old := by
  cases hw : s.writes v pos with
  | false => rw [writeBit_of_not_writes hw, writeBit_of_not_writes hw]
  | true =>
    simp only [writeBit, hw, cond_true]
    cases s.isMask <;> cases s.valueBit v pos <;> cases old <;> rfl

end Spec

/-! ## Runs of writes -/

/-- The bit that is left at a position by writes, one after the other, where there was an old one. -/
def leftBit (pos : Nat) (ws : List (Spec × Value)) (old : Bool) : Bool :=
  ws.foldl (fun bit w => w.1.writeBit w.2 pos bit) old

theorem bitAt_writeAll {ws : List (Spec × Value)} {b : Bytes} (h : ∀ w ∈ ws, w.1.stop ≤ b.length) (pos : Nat) :
    (writeAll ws b).bitAt pos = leftBit pos ws (b.bitAt pos) := by
  induction ws generalizing b with
  | nil => rfl
  | cons w ws ih =>
    obtain ⟨hw, hws⟩ := List.forall_mem_cons.1 h
    have hlength := Spec.length_write w.2 hw
    rw [writeAll_cons, ih fun x hx => by rw [hlength]; exact hws x hx, Spec.bitAt_write w.2 hw]
    rfl

/-- Every write of the one run is compatible with every other write of the second. -/
def Commuting (ws ws' : List (Spec × Value)) : Prop := ∀ w ∈ ws, ∀ x ∈ ws', w ≠ x → w.1.Compatible x.1

/-- A write can change places with a run of writes that are the same or compatible with it. -/
theorem leftBit_writeBit {w : Spec × Value} {ws : List (Spec × Value)} (h : ∀ x ∈ ws, w ≠ x → w.1.Compatible x.1)
    (pos : Nat) (old : Bool) :
    leftBit pos ws (w.1.writeBit w.2 pos old) = w.1.writeBit w.2 pos (leftBit pos ws old) := by
  induction ws generalizing old with
  | nil => rfl
  | cons x ws ih =>
    obtain ⟨hx, hws⟩ := List.forall_mem_cons.1 h
    change leftBit pos ws (x.1.writeBit x.2 pos _) = w.1.writeBit w.2 pos (leftBit pos ws (x.1.writeBit x.2 pos old))
    rw [← ih hws]
    by_cases hwx : w = x
    · rw [hwx]
    · rw [Spec.writeBit_comm (hx hwx)]

theorem leftBit_comm {ws ws' : List (Spec × Value)} (h : Commuting ws ws') (pos : Nat) (old : Bool) :
    leftBit pos ws' (leftBit pos ws old) = leftBit pos ws (leftBit pos ws' old) := by
  induction ws generalizing old with
  | nil => rfl
  | cons w ws ih =>
    obtain ⟨hw, hws⟩ := List.forall_mem_cons.1 h
    change leftBit pos ws' (leftBit pos ws (w.1.writeBit w.2 pos old)) = leftBit pos ws (w.1.writeBit w.2 pos _)
    rw [ih hws, leftBit_writeBit hw]

/-- A write that stands in a run changes nothing when it is done again after the run. -/
theorem writeBit_leftBit {w : Spec × Value} {ws : List (Spec × Value)} (h : Commuting ws ws) (hw : w ∈ ws) (pos : Nat)
    (old : Bool) : w.1.writeBit w.2 pos (leftBit pos ws old) = leftBit pos ws old := by
  obtain ⟨before, after, rfl⟩ := List.append_of_mem hw
  have hafter : ∀ x ∈ after, w ≠ x → w.1.Compatible x.1 := fun x hx =>
    h w hw x (List.mem_append_right _ (List.mem_cons_of_mem _ hx))
  have hrun : leftBit pos (before ++ w :: after) old
      = leftBit pos after (w.1.writeBit w.2 pos (leftBit pos before old)) := List.foldl_append
  rw [hrun, ← leftBit_writeBit hafter, Spec.writeBit_self]

/-- So do any writes that stand in the run. -/
theorem leftBit_of_subset {ws ws' : List (Spec × Value)} (h : Commuting ws ws) (hsub : ws' ⊆ ws) (pos : Nat)
    (old : Bool) : leftBit pos ws' (leftBit pos ws old) = leftBit pos ws old := by
  induction ws' with
  | nil => rfl
  | cons w ws' ih =>
    obtain ⟨hw, hrest⟩ := List.cons_subset.1 hsub
    change leftBit pos ws' (w.1.writeBit w.2 pos (leftBit pos ws old)) = _
    rw [writeBit_leftBit h hw, ih hrest]

/-- **Two runs** of writes, each compatible with the other, leave the same buffer in either order. -/
theorem writeAll_comm {ws ws' : List (Spec × Value)} {b : Bytes} (hc : Commuting ws ws')
    (h : ∀ w ∈ ws, w.1.stop ≤ b.length) (h' : ∀ w ∈ ws', w.1.stop ≤ b.length) :
    writeAll ws' (writeAll ws b) = writeAll ws (writeAll ws' b) := by
  have hl := length_writeAll h
  have hl' := length_writeAll h'
  have hafter : ∀ w ∈ ws', w.1.stop ≤ (writeAll ws b).length := by rwa [hl]
  have hafter' : ∀ w ∈ ws, w.1.stop ≤ (writeAll ws' b).length := by rwa [hl']
  apply eq_of_bitAt
  · rw [length_writeAll hafter, length_writeAll hafter', hl, hl']
  · intro pos _
    rw [bitAt_writeAll hafter, bitAt_writeAll h, bitAt_writeAll hafter', bitAt_writeAll h', leftBit_comm hc]

/-- **The same writes** in any order, and each of them any number of times, leave the same buffer. -/
theorem writeAll_congr {ws ws' : List (Spec × Value)} {b : Bytes} (hsame : ∀ w, w ∈ ws ↔ w ∈ ws')
    (hc : Commuting ws ws) (h : ∀ w ∈ ws, w.1.stop ≤ b.length) : writeAll ws b = writeAll ws' b := by
  have h' : ∀ w ∈ ws', w.1.stop ≤ b.length := fun w hw => h w ((hsame w).2 hw)
  have hc' : Commuting ws' ws' := fun w hw x hx => hc w ((hsame w).2 hw) x ((hsame x).2 hx)
  have hcross : Commuting ws ws' := fun w hw x hx => hc w hw x ((hsame x).2 hx)
  apply eq_of_bitAt
  · rw [length_writeAll h, length_writeAll h']
  · intro pos _
    rw [bitAt_writeAll h, bitAt_writeAll h']
    calc leftBit pos ws (b.bitAt pos)
      _ = leftBit pos ws' (leftBit pos ws (b.bitAt pos)) :=
        (leftBit_of_subset hc (fun w hw => (hsame w).2 hw) pos _).symm
      _ = leftBit pos ws (leftBit pos ws' (b.bitAt pos)) := leftBit_comm hcross pos _
      _ = leftBit pos ws' (b.bitAt pos) := leftBit_of_subset hc' (fun w hw => (hsame w).1 hw) pos _

/-! ## Sets of values -/

namespace Values

variable {ι : Type}

/-- No field has two values. -/
def Distinct (vs : Values ι) : Prop := (vs.entries.map Prod.fst).Nodup

variable [DecidableEq ι]

/-- A field that has a value keeps its place. -/
theorem keys_put_of_mem {id : ι} {v : Value} {entries : List (ι × Value)} (h : id ∈ entries.map Prod.fst) :
    (put id v entries).2.map Prod.fst = entries.map Prod.fst := by
  induction entries with
  | nil => cases h
  | cons e entries ih =>
    by_cases he : e.1 = id
    · simp only [put, if_pos he, List.map_cons]
    · have hrest : id ∈ entries.map Prod.fst := (List.mem_cons.1 h).resolve_left (Ne.symm he)
      simp only [put, if_neg he, List.map_cons, ih hrest]

/-- A field that has no value yet gets one at the end. -/
theorem put_of_not_mem {id : ι} {v : Value} {entries : List (ι × Value)} (h : id ∉ entries.map Prod.fst) :
    put id v entries = (none, entries ++ [(id, v)]) := by
  induction entries with
  | nil => rfl
  | cons e entries ih =>
    rw [List.map_cons, List.mem_cons, not_or] at h
    rw [put, if_neg (Ne.symm h.1), ih h.2]
    rfl

theorem entries_insert (vs : Values ι) (id : ι) (v : Value) : (vs.insert id v).entries = (put id v vs.entries).2 := rfl

theorem Distinct.insert {vs : Values ι} (h : vs.Distinct) (id : ι) (v : Value) : (vs.insert id v).Distinct := by
  rw [Distinct, entries_insert]
  by_cases hid : id ∈ vs.entries.map Prod.fst
  · rw [keys_put_of_mem hid]
    exact h
  · rw [put_of_not_mem hid, List.map_append, List.nodup_append]
    refine ⟨h, List.nodup_singleton id, fun k hk k' hk' he => hid ?_⟩
    have hlast : k = id := he.trans (List.mem_singleton.1 hk')
    rwa [← hlast]

/-- Giving a field a value adds no other entry. -/
theorem mem_put {id : ι} {v : Value} {entries : List (ι × Value)} {e : ι × Value} (h : e ∈ (put id v entries).2) :
    e = (id, v) ∨ e ∈ entries := by
  induction entries with
  | nil => exact Or.inl (List.mem_singleton.1 h)
  | cons x entries ih =>
    by_cases hx : x.1 = id
    · simp only [put, if_pos hx, List.mem_cons] at h
      rcases h with rfl | h
      · exact Or.inl (Prod.ext hx rfl)
      · exact Or.inr (List.mem_cons_of_mem _ h)
    · simp only [put, if_neg hx, List.mem_cons] at h
      rcases h with rfl | h
      · exact Or.inr List.mem_cons_self
      · exact (ih h).imp_right (List.mem_cons_of_mem _)

theorem keys_put (id : ι) (v : Value) (entries : List (ι × Value)) : (put id v entries).2.map Prod.fst =
    if id ∈ entries.map Prod.fst then entries.map Prod.fst else entries.map Prod.fst ++ [id] := by
  by_cases h : id ∈ entries.map Prod.fst
  · rw [if_pos h, keys_put_of_mem h]
  · rw [if_neg h, put_of_not_mem h, List.map_append]
    rfl

/-! ### Sets that are made of a list -/

/-- One more item is one more value. -/
theorem ofList_concat (items : List (ι × Value)) (e : ι × Value) :
    ofList (items ++ [e]) = (ofList items).insert e.1 e.2 := by
  rw [ofList, List.foldl_append]
  rfl

/-- Values that are given one after the other are of different fields. -/
theorem distinct_ofList (items : List (ι × Value)) : (ofList items).Distinct := by
  induction items using List.reverseRecOn with
  | nil => exact List.nodup_nil
  | append_singleton items e ih =>
    rw [ofList_concat]
    exact ih.insert e.1 e.2

/-- A set that is made of a list has no other entries than the list. -/
theorem mem_of_mem_ofList {items : List (ι × Value)} {e : ι × Value} (h : e ∈ (ofList items).entries) : e ∈ items := by
  induction items using List.reverseRecOn with
  | nil => exact h
  | append_singleton items x ih =>
    rw [ofList_concat] at h
    rcases mem_put h with rfl | h
    · exact List.mem_append_right _ List.mem_cons_self
    · exact List.mem_append_left _ (ih h)

/-- Every field of the list has an entry. -/
theorem mem_keys_ofList {items : List (ι × Value)} {id : ι} (h : id ∈ items.map Prod.fst) :
    id ∈ (ofList items).entries.map Prod.fst := by
  induction items using List.reverseRecOn with
  | nil => exact h
  | append_singleton items x ih =>
    rw [ofList_concat, entries_insert, keys_put]
    rw [List.map_append, List.mem_append] at h
    rcases h with h | h
    · split
      · exact ih h
      · exact List.mem_append_left _ (ih h)
    · cases List.mem_singleton.1 h
      split
      · exact ‹_›
      · exact List.mem_append_right _ List.mem_cons_self

end Values

namespace Table

variable {ι : Type} [DecidableEq ι]

/-! ## Tables -/

/-- The writes of one list of values after those of another. -/
theorem writeAll_located_append (t : Table ι) (entries entries' : List (ι × Value)) (b : Bytes) :
    writeAll (t.located (entries ++ entries')) b = writeAll (t.located entries') (writeAll (t.located entries) b) := by
  rw [located, List.filterMap_append, writeAll, List.foldl_append]
  rfl

/-- The fields that are given values are compatible with each other. -/
def Mergeable (t : Table ι) (entries : List (ι × Value)) : Prop :=
  ∀ e ∈ entries, ∀ e' ∈ entries, e.1 ≠ e'.1 → ∀ s ∈ t.spec? e.1, ∀ s' ∈ t.spec? e'.1, s.Compatible s'

instance (t : Table ι) (entries : List (ι × Value)) : Decidable (t.Mergeable entries) :=
  inferInstanceAs (Decidable (∀ _ ∈ _, ∀ _ ∈ _, _ → ∀ _ ∈ _, ∀ _ ∈ _, _))

/-- No field of the table is given two different values. -/
def SingleValued (t : Table ι) (entries : List (ι × Value)) : Prop :=
  ∀ e ∈ entries, ∀ e' ∈ entries, e.1 = e'.1 → (t.spec? e.1).isSome = true → e.2 = e'.2

/-- Nor is it by two sets that have no field in common. -/
theorem SingleValued.append {t : Table ι} {entries entries' : List (ι × Value)} (h : t.SingleValued entries)
    (h' : t.SingleValued entries') (hids : ∀ e ∈ entries, ∀ e' ∈ entries', e.1 ≠ e'.1) :
    t.SingleValued (entries ++ entries') := by
  intro e he e' he' heq
  rcases List.mem_append.1 he with he | he <;> rcases List.mem_append.1 he' with he' | he'
  · exact h e he e' he' heq
  · exact absurd heq (hids e he e' he')
  · exact absurd heq.symm (hids e' he' e he)
  · exact h' e he e' he' heq

/-- Nor is it by a set without two entries for a field. -/
theorem singleValued_of_distinct {vs : Values ι} (h : vs.Distinct) (t : Table ι) : t.SingleValued vs.entries := by
  intro e he e' he' heq _
  rw [List.inj_on_of_nodup_map h he he' heq]

/-- Writes of some of the values can change places with writes of others, if no field is given two values by them. -/
theorem Mergeable.commuting {t : Table ι} {entries l l' : List (ι × Value)} (h : t.Mergeable entries)
    (hl : l ⊆ entries) (hl' : l' ⊆ entries)
    (hs : ∀ e ∈ l, ∀ e' ∈ l', e.1 = e'.1 → (t.spec? e.1).isSome = true → e.2 = e'.2) :
    Commuting (t.located l) (t.located l') := by
  intro w hw x hx hne
  obtain ⟨id, hid, hspec⟩ := mem_located.1 hw
  obtain ⟨id', hid', hspec'⟩ := mem_located.1 hx
  refine h _ (hl hid) _ (hl' hid') (fun heq => hne ?_) w.1 hspec x.1 hspec'
  have hvalue : w.2 = x.2 := hs _ hid _ hid' heq (by rw [hspec]; rfl)
  cases heq
  exact Prod.ext (Option.some.inj (hspec.symm.trans hspec')) hvalue

/-- A set that is made of a list writes all that the list says. -/
theorem mem_located_ofList {t : Table ι} {items : List (ι × Value)} (h : t.SingleValued items) (w : Spec × Value) :
    w ∈ t.located (Values.ofList items).entries ↔ w ∈ t.located items := by
  simp only [mem_located]
  refine exists_congr fun id => and_congr_left fun hspec => ⟨Values.mem_of_mem_ofList, fun hid => ?_⟩
  obtain ⟨e, he, rfl⟩ := List.mem_map.1 (Values.mem_keys_ofList (List.mem_map_of_mem hid))
  have hvalue : e.2 = w.2 := h e (Values.mem_of_mem_ofList he) _ hid rfl (by rw [hspec]; rfl)
  rw [← hvalue]
  exact he

variable [Named ι]

/-- **The order of encoding does not matter**: two sets of values that have no field in common and that can be stored,
each value on its own, leave the same buffer in either order, if all fields that are given values are compatible.

So do all the values in one set, given in any order, if neither set has two different values for a field of the table.
Only a set that was decoded can have two (`Values.distinct_ofList`). -/
theorem encode_comm (t : Table ι) (v₁ v₂ : Values ι) (b : Bytes)
    (hids : ∀ e ∈ v₁.entries, ∀ e' ∈ v₂.entries, e.1 ≠ e'.1) (hm : t.Mergeable (v₁.entries ++ v₂.entries))
    (ha : t.Accepts (v₁.entries ++ v₂.entries) b.length) :
    ∃ c c₁ c₂, t.encode v₁ b = .ok c₁ ∧ t.encode v₂ c₁ = .ok c ∧ t.encode v₂ b = .ok c₂ ∧ t.encode v₁ c₂ = .ok c
      ∧ (t.SingleValued v₁.entries → t.SingleValued v₂.entries → ∀ items : List (ι × Value),
          items.Perm (v₁.entries ++ v₂.entries) → t.encode (.ofList items) b = .ok c) := by
  have ha₁ : t.Accepts v₁.entries b.length := fun e he => ha e (List.mem_append_left _ he)
  have ha₂ : t.Accepts v₂.entries b.length := fun e he => ha e (List.mem_append_right _ he)
  have hl₁ := length_writeAll ha₁.stop_le
  have hl₂ := length_writeAll ha₂.stop_le
  have hcross : Commuting (t.located v₁.entries) (t.located v₂.entries) :=
    hm.commuting (List.subset_append_left ..) (List.subset_append_right ..) fun e he e' he' heq =>
      absurd heq (hids e he e' he')
  have hcomm := writeAll_comm hcross ha₁.stop_le ha₂.stop_le
  refine ⟨_, _, _, ha₁.encode, Accepts.encode (by rwa [hl₁]), ha₂.encode, ?_, fun hs₁ hs₂ items hp => ?_⟩
  · rw [hcomm]
    exact Accepts.encode (by rwa [hl₂])
  · have hsingle := hs₁.append hs₂ hids
    have hitems : t.SingleValued items := fun e he e' he' => hsingle e (hp.mem_iff.1 he) e' (hp.mem_iff.1 he')
    have haccepts : t.Accepts (Values.ofList items).entries b.length := fun e he =>
      ha e (hp.mem_iff.1 (Values.mem_of_mem_ofList he))
    have hsame : ∀ w, w ∈ t.located (v₁.entries ++ v₂.entries) ↔ w ∈ t.located (Values.ofList items).entries :=
      fun w => ((hp.filterMap _).mem_iff).symm.trans (mem_located_ofList hitems w).symm
    rw [← writeAll_located_append, writeAll_congr hsame (hm.commuting (List.Subset.refl _) (List.Subset.refl _) hsingle)
      ha.stop_le]
    exact haccepts.encode

/-- Masks that share bits, a length in between, and a bit range. -/
def sharedTable : Table String :=
  ⟨[("high", .mask 0 0xF0 .big), ("length", .bytes 1 2 .littleEndian), ("low", .mask 0 0x1F .big),
    ("bits", .bits 24 5)]⟩

/-- Two masks that share a bit, each in a set of its own, and fields of which the table has only some. -/
theorem encode_comm_shared : (let b : Bytes := [0x40, 0xAA, 0xAA, 0xAA]
    let v₁ : Values String := .ofList [("high", .uint 2), ("bits", .uint 9), ("high", .uint 1)]
    let v₂ : Values String := .ofList [("color", .uint 7), ("length", .uint 0x1234), ("low", .uint 0x12)]
    ∃ c c₁ c₂, sharedTable.encode v₁ b = .ok c₁ ∧ sharedTable.encode v₂ c₁ = .ok c ∧ sharedTable.encode v₂ b = .ok c₂
      ∧ sharedTable.encode v₁ c₂ = .ok c
      ∧ sharedTable.encode (.ofList [("low", .uint 0x12), ("bits", .uint 9), ("color", .uint 7), ("high", .uint 1),
          ("length", .uint 0x1234)]) b = .ok c) := by
  intro b v₁ v₂
  obtain ⟨c, c₁, c₂, h₁, h₁₂, h₂, h₂₁, hall⟩ := encode_comm sharedTable v₁ v₂ b (by decide) (by decide +kernel)
    (by decide +kernel)
  exact ⟨c, c₁, c₂, h₁, h₁₂, h₂, h₂₁, hall (singleValued_of_distinct (Values.distinct_ofList _) _)
    (singleValued_of_distinct (Values.distinct_ofList _) _) _ (by decide)⟩

/-- Two masks in one byte that are listed as one field. -/
def doubledTable : Table String := ⟨[("x", .mask 0 0x03 .big), ("x", .mask 0 0x0C .big)]⟩

/-- **One set has room for one value of a field only**: a set that was decoded with two values for a field stores both
of them, one on top of the other, and a set that is made of its entries stores the one that was given last. -/
theorem encode_comm_doubled : (let v : Values String := ⟨[("x", .uint 1), ("x", .uint 2)]⟩
    (doubledTable.decode [0x09]).map Values.entries = .ok v.entries
      ∧ doubledTable.encode v [0] = .ok [3] ∧ doubledTable.encode ∅ [3] = .ok [3]
      ∧ doubledTable.encode (.ofList [("x", .uint 1), ("x", .uint 2)]) [0] = .ok [2]
      ∧ doubledTable.encode (.ofList [("x", .uint 2), ("x", .uint 1)]) [0] = .ok [1])
    ∧ ¬∀ (t : Table String) (v₁ v₂ : Values String) (b : Bytes),
      (∀ e ∈ v₁.entries, ∀ e' ∈ v₂.entries, e.1 ≠ e'.1) → (∀ f ∈ t.fields, ∀ f' ∈ t.fields, f.2.Compatible f'.2) →
      t.Accepts (v₁.entries ++ v₂.entries) b.length →
      ∃ c c₁, t.encode v₁ b = .ok c₁ ∧ t.encode v₂ c₁ = .ok c ∧ ∀ items : List (String × Value),
        items.Perm (v₁.entries ++ v₂.entries) → t.encode (.ofList items) b = .ok c := by
  refine ⟨by decide +kernel, fun hall => ?_⟩
  obtain ⟨c, c₁, -, -, hunion⟩ := hall doubledTable ⟨[("x", .uint 1), ("x", .uint 2)]⟩ ∅ [0] (by decide)
    (by decide +kernel) (by decide +kernel)
  have hlast : doubledTable.encode (.ofList [("x", .uint 2), ("x", .uint 1)]) [0] = .ok [1] := by decide +kernel
  have hother : doubledTable.encode (.ofList [("x", .uint 1), ("x", .uint 2)]) [0] = .ok [2] := by decide +kernel
  have hc := hlast.symm.trans (hunion _ (by decide))
  have hc' := hother.symm.trans (hunion _ (by decide))
  cases hc.trans hc'.symm

end Table

end StorageCommands.Layout
