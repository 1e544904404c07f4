import StorageCommands.Proofs.Layout.Tables

/-!
# What encoding checks

A field stores a value (`Spec.Stores`) or has a first fault to report (`Spec.Refuses`), and so does a table for a list
of values (`Table.Accepts`, `Table.Refuses`). These are the results of the checks: `encode_isOk_iff` and
`encode_eq_error_iff`.
-/

namespace StorageCommands.Layout

namespace Spec

/-! ## One value -/

/-- The field stores the value in a buffer of a length. -/
structure Stores (s : Spec) (v : Value) (len : Nat) : Prop where
  /-- The buffer has all bytes of the field. -/
  inside : s.stop ≤ len
  /-- The field takes values of this kind. -/
  accepted : s.accepts v = true
  /-- An integer is not too large for the field. -/
  fits : ∀ n ∈ v.uint?, ∀ max ∈ s.maxValue, n ≤ max

theorem stores_iff {s : Spec} {v : Value} {len : Nat} (name : String) :
    s.Stores v len ↔ s.check name v len = .ok () := by
  rw [check_eq_ok_iff]
  constructor
  · intro h
    exact ⟨h.inside, h.accepted, h.fits⟩
  · rintro ⟨inside, accepted, fits⟩
    exact ⟨inside, accepted, fits⟩

instance (s : Spec) (v : Value) (len : Nat) : Decidable (s.Stores v len) := decidable_of_iff _ (stores_iff "").symm

/-- The first fault of a value that a field does not store: a field that reaches past the buffer, then one that does not
take values of the kind, then one that an integer is too large for. -/
inductive Refuses (s : Spec) (name : String) (len : Nat) : Value → Error → Prop
  | bufferTooSmall {v : Value} : len < s.stop → Refuses s name len v (.bufferTooSmall name s.stop len)
  | typeMismatch {v : Value} : s.stop ≤ len → s.accepts v = false → Refuses s name len v (.typeMismatch name)
  | valueTooLarge {n max : Nat} : s.stop ≤ len → s.accepts (.uint n) = true → s.maxValue = some max → max < n →
      Refuses s name len (.uint n) (.valueTooLarge name n max)

theorem Refuses.check {s : Spec} {name : String} {len : Nat} {v : Value} {e : Error} (h : s.Refuses name len v e) :
    s.check name v len = .error e := by
  cases h with
  | bufferTooSmall hl =>
    rw [Spec.check, checkBounds, if_pos hl]
    rfl
  | typeMismatch hl ha =>
    rw [Spec.check, checkBounds, if_neg (Nat.not_lt.2 hl), ha]
    rfl
  | valueTooLarge hl ha hmax hn => exact check_eq_error hl ha hmax hn

/-- A value that is not stored has a first fault. -/
theorem exists_refuses {s : Spec} {v : Value} {len : Nat} (name : String) (h : ¬s.Stores v len) :
    ∃ e, s.Refuses name len v e := by
  by_cases hl : s.stop ≤ len
  · cases ha : s.accepts v with
    | false => exact ⟨_, .typeMismatch hl ha⟩
    | true =>
      -- what is left is an integer that is too large
      have hlarge : ¬∀ n ∈ v.uint?, ∀ max ∈ s.maxValue, n ≤ max := fun hfits => h ⟨hl, ha, hfits⟩
      push Not at hlarge
      obtain ⟨n, hn, max, hmax, hlt⟩ := hlarge
      cases v with
      | uint n' =>
        cases hn
        exact ⟨_, .valueTooLarge hl ha hmax hlt⟩
      | bytes _ | text _ => cases hn
  · exact ⟨_, .bufferTooSmall (Nat.lt_of_not_le hl)⟩

end Spec

/-! ## All values -/

namespace Table

variable {ι : Type} [DecidableEq ι]

/-- Every value whose field the table has is stored in a buffer of a length, each on its own. -/
def Accepts (t : Table ι) (entries : List (ι × Value)) (len : Nat) : Prop :=
  ∀ e ∈ entries, ∀ s ∈ t.spec? e.1, s.Stores e.2 len

instance (t : Table ι) (entries : List (ι × Value)) (len : Nat) : Decidable (t.Accepts entries len) :=
  inferInstanceAs (Decidable (∀ _ ∈ _, ∀ _ ∈ _, _))

theorem Accepts.stop_le {t : Table ι} {entries : List (ι × Value)} {len : Nat} (h : t.Accepts entries len) :
    ∀ w ∈ t.located entries, w.1.stop ≤ len := by
  intro w hw
  obtain ⟨id, hid, hs⟩ := mem_located.1 hw
  exact (h (id, w.2) hid w.1 hs).inside

variable [Named ι]

/-- The first value that is not stored, with its first fault. -/
def Refuses (t : Table ι) (entries : List (ι × Value)) (len : Nat) (err : Error) : Prop :=
  ∃ before id v after s, entries = before ++ (id, v) :: after ∧ t.Accepts before len ∧ t.spec? id = some s
    ∧ s.Refuses (Named.name id) len v err

theorem accepts_iff {t : Table ι} {entries : List (ι × Value)} {len : Nat} :
    t.Accepts entries len ↔ ∀ e ∈ entries, ∀ s ∈ t.spec? e.1, s.check (Named.name e.1) e.2 len = .ok () :=
  forall₄_congr fun e _ _ _ => Spec.stores_iff (Named.name e.1)

/-- Values that are stored are written. -/
theorem Accepts.encode {t : Table ι} {values : Values ι} {b : Bytes} (h : t.Accepts values.entries b.length) :
    t.encode values b = .ok (writeAll (t.located values.entries) b) :=
  encode_eq_ok_iff.2 ⟨accepts_iff.1 h, rfl⟩

/-- **When values are stored.** -/
theorem encode_isOk_iff {t : Table ι} {values : Values ι} {b : Bytes} :
    (∃ c, t.encode values b = .ok c) ↔ t.Accepts values.entries b.length := by
  constructor
  · rintro ⟨c, hc⟩
    exact accepts_iff.2 (encode_eq_ok_iff.1 hc).1
  · intro h
    exact ⟨_, h.encode⟩

/-- Of values that are not all stored, one is the first. -/
theorem exists_refuses {t : Table ι} {entries : List (ι × Value)} {len : Nat} (h : ¬t.Accepts entries len) :
    ∃ err, t.Refuses entries len err := by
  induction entries with
  | nil => exact absurd (List.forall_mem_nil _) h
  | cons e entries ih =>
    by_cases he : ∀ s ∈ t.spec? e.1, s.Stores e.2 len
    · have hrest : ¬t.Accepts entries len := fun hrest => h (List.forall_mem_cons.2 ⟨he, hrest⟩)
      obtain ⟨err, before, id, v, after, s, rfl, hbefore, hfault⟩ := ih hrest
      exact ⟨err, e :: before, id, v, after, s, rfl, List.forall_mem_cons.2 ⟨he, hbefore⟩, hfault⟩
    · push Not at he
      obtain ⟨s, hs, hnot⟩ := he
      obtain ⟨err, herr⟩ := Spec.exists_refuses (Named.name e.1) hnot
      exact ⟨err, [], e.1, e.2, entries, s, rfl, List.forall_mem_nil _, hs, herr⟩

theorem Refuses.encode {t : Table ι} {values : Values ι} {b : Bytes} {err : Error}
    (h : t.Refuses values.entries b.length err) : t.encode values b = .error err := by
  obtain ⟨entries⟩ := values
  obtain ⟨before, id, v, after, s, rfl, hbefore, hs, hfault⟩ := h
  exact encode_eq_error_of_check before (accepts_iff.1 hbefore) hs hfault.check

/-- **Why values are not stored.** -/
theorem encode_eq_error_iff {t : Table ι} {values : Values ι} {b : Bytes} {err : Error} :
    t.encode values b = .error err ↔ t.Refuses values.entries b.length err := by
  refine ⟨fun h => ?_, Refuses.encode⟩
  have hnot : ¬t.Accepts values.entries b.length := fun ha => by
    rw [ha.encode] at h
    cases h
  obtain ⟨err', herr⟩ := exists_refuses hnot
  cases herr.encode.symm.trans h
  exact herr

end Table

end StorageCommands.Layout
