import StorageCommands.Proofs.Layout.Checks
import StorageCommands.Proofs.Layout.InPlace

/-!
# All or nothing

`encode_atomic` says when a set of values is stored, why it is not, and what a driver does that changes one buffer in
place (`InPlace.encode`). The two passes of encoding agree: a value that passes its check (`Stores`) is one that its
field can write, and every other value has a first fault (`Refuses`), which is the error of its check.

The tables are those whose fields can be built (`Built`) and whose numbers are machine words. They may list a field
twice, and their fields may overlap.
-/

namespace StorageCommands.Layout

namespace Spec

/-! ## Fields that can be built -/

/-- The field is made by the functions that build a specification step by step. -/
inductive Built : Spec → Prop
  | masked {offset m : Nat} {s : Spec} : masked offset m = .ok s → Built s
  | range {offset len : Nat} {s : Spec} : range offset len = .ok s → Built s
  | bitRange {offset width : Nat} {s : Spec} : bitRange offset width = .ok s → Built s
  | withOrder (order : ByteOrder) {s s' : Spec} : Built s → withOrder order s = .ok s' → Built s'
  | asText {s s' : Spec} : Built s → asText s = .ok s' → Built s'

/-- Building refuses the fields that mean nothing. -/
theorem Built.wellFormed {s : Spec} (h : s.Built) : s.WellFormed := by
  induction h with
  | @masked offset m s h =>
    unfold Spec.masked at h
    split at h
    · cases h
    · cases h
      exact Nat.pos_of_ne_zero ‹_›
  | range h => cases h; exact Or.inl rfl
  | @bitRange offset width s h =>
    unfold Spec.bitRange at h
    split at h
    · cases h
      exact ‹_›
    · cases h
  | @withOrder order s s' _ h ih =>
    cases s with
    | mask offset m _ => cases h; exact ih
    | bytes offset len _ =>
      unfold Spec.withOrder at h
      dsimp only at h
      split at h
      · cases h
        exact Or.inr ‹_›
      · cases h
    | bits _ _ => cases h
  | @asText s s' _ h ih =>
    cases s with
    | bytes offset len _ => cases h; exact Or.inl rfl
    | mask _ _ _ | bits _ _ => cases h

/-- All other fields can be built. -/
theorem built_of_wellFormed {s : Spec} (h : s.WellFormed) : s.Built := by
  cases s with
  | mask offset m order => exact .withOrder order (.masked (if_neg (Nat.ne_of_gt h))) rfl
  | bytes offset len transform =>
    have hraw : (bytes offset len .raw).Built := .range rfl
    cases transform with
    | raw => exact hraw
    | littleEndian => exact .withOrder .little hraw (if_pos (h.resolve_left nofun))
    | bigEndian => exact .withOrder .big hraw (if_pos (h.resolve_left nofun))
    | text => exact .asText hraw rfl
  | bits offset width => exact .bitRange (if_pos h)

theorem built_iff {s : Spec} : s.Built ↔ s.WellFormed := ⟨Built.wellFormed, built_of_wellFormed⟩

instance (s : Spec) : Decidable s.Built := decidable_of_iff _ built_iff.symm

end Spec

namespace Table

variable {ι : Type} [DecidableEq ι]

/-! ## Values of a table -/

/-- The values whose fields the table has. -/
def known (t : Table ι) (values : Values ι) : Values ι := ⟨values.entries.filter fun e => (t.spec? e.1).isSome⟩

variable [Named ι]

theorem writes_known (t : Table ι) (len : Nat) (values : Values ι) :
    t.writes len (t.known values).entries = t.writes len values.entries := by
  obtain ⟨entries⟩ := values
  induction entries with
  | nil => rfl
  | cons e entries ih =>
    cases hs : t.spec? e.1 with
    | none =>
      have hskip : (t.known ⟨e :: entries⟩).entries = (t.known ⟨entries⟩).entries := by simp [known, hs]
      rw [hskip, ih]
      simp only [writes, hs]
    | some s =>
      have hkeep : (t.known ⟨e :: entries⟩).entries = e :: (t.known ⟨entries⟩).entries := by simp [known, hs]
      rw [hkeep]
      simp only [writes, hs, ih]

/-- **Encoding stores all values or nothing**, in tables of fields that can be built, whose numbers are machine words.

It succeeds if each value is stored whose field the table has, by the first field of that name. If not, it fails with
the first fault of the first value that is not stored. Values whose fields the table does not have make no difference.
Done in place, it changes the buffer to the result if it succeeds, and leaves it as it was if it fails; there is no
other halt. -/
theorem encode_atomic (t : Table ι) (ht : ∀ f ∈ t.fields, f.2.Built ∧ InPlace.MachineSized f.2) (values : Values ι)
    (b : Bytes) :
    ((∃ c, t.encode values b = .ok c) ↔ t.Accepts values.entries b.length)
      ∧ (∀ err, t.encode values b = .error err ↔ t.Refuses values.entries b.length err)
      ∧ t.encode (t.known values) b = t.encode values b
      ∧ (InPlace.encode t values).run.run b = match t.encode values b with
        | .ok c => (.ok (), c)
        | .error err => (.error (.refused err), b) := by
  have hfields : ∀ f ∈ t.fields, f.2.WellFormed ∧ InPlace.MachineSized f.2 := fun f hf =>
    ⟨(ht f hf).1.wellFormed, (ht f hf).2⟩
  have hknown : t.encode (t.known values) b = t.encode values b := by rw [encode, encode, writes_known]
  exact ⟨encode_isOk_iff, fun err => encode_eq_error_iff, hknown, InPlace.run_encode hfields values b⟩

/-- A field that is listed twice, and fields that overlap. -/
def crowdedTable : Table String :=
  ⟨[("mode", .mask 0 0x30 .big), ("length", .bytes 1 2 .littleEndian), ("mode", .bits 60 9), ("straddle", .bits 13 9),
    ("serial", .bytes 2 4 .text)]⟩

/-- Values for fields that overlap are all stored, and those of another field passed over. Where a length and a mode are
too large, the mode is not the first, and nothing is changed. -/
theorem encode_atomic_crowded : (let b : Bytes := [1, 2, 3, 4, 5, 6]
    let stored : Values String :=
      ⟨[("serial", .text "é"), ("color", .uint 7), ("mode", .uint 3), ("straddle", .uint 0x155)]⟩
    let refused : Values String :=
      ⟨[("mode", .uint 3), ("color", .uint 7), ("length", .uint 0x10000), ("mode", .uint 4)]⟩
    (∃ c, crowdedTable.encode stored b = .ok c ∧ (InPlace.encode crowdedTable stored).run.run b = (.ok (), c))
      ∧ (InPlace.encode crowdedTable refused).run.run b
        = (.error (.refused (.valueTooLarge "length" 0x10000 0xFFFF)), b)) := by
  intro b stored refused
  have ht : ∀ f ∈ crowdedTable.fields, f.2.Built ∧ InPlace.MachineSized f.2 := by decide
  obtain ⟨hstored, -, -, hrun⟩ := encode_atomic crowdedTable ht stored b
  obtain ⟨-, hrefused, -, hhalt⟩ := encode_atomic crowdedTable ht refused b
  obtain ⟨c, hc⟩ := hstored.2 (by decide +kernel)
  have herror := (hrefused _).2 ⟨[("mode", .uint 3), ("color", .uint 7)], "length", .uint 0x10000, [("mode", .uint 4)],
    .bytes 1 2 .littleEndian, rfl, by decide +kernel, rfl, .valueTooLarge (by decide) rfl rfl (by decide)⟩
  rw [hc] at hrun
  rw [herror] at hhalt
  exact ⟨⟨c, hc, hrun⟩, hhalt⟩

end Table

end StorageCommands.Layout
