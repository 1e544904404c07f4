import StorageCommands.Proofs.Layout.Decoding
import StorageCommands.Proofs.Layout.Reordering

/-!
# Equality of sets of values

Two sets are equal if they are of one size and the second has every entry of the first as its value. Of sets without two
values for a field, that is to say that they have the same value for every field, in whatever order
(`Distinct.beq_iff`).

A set that can be obtained (`Obtained`) is without two values for a field unless it comes from a table that lists a
field twice (`Obtained.distinct_iff`): giving a value looks for an entry of the field first, but decoding appends one
for each entry of the table. In such a set an entry is hidden behind an earlier one of the same field (`Hides`). Nothing
is looked up there, but equality counts it, and compares it if the set stands on the left: `equality_lawful`,
`repeated_field_asymmetric`.
-/

namespace StorageCommands.Layout

open Bytes

namespace Values

variable {ι : Type} [DecidableEq ι] {a b c vs : Values ι}

/-! ## Look-up -/

theorem mem_keys_iff {id : ι} : id ∈ vs.entries.map Prod.fst ↔ ∃ v, vs.get? id = some v := by
  constructor
  · intro h
    cases hget : vs.get? id with
    | some v => exact ⟨v, rfl⟩
    | none =>
      obtain ⟨e, he, rfl⟩ := List.mem_map.1 h
      have hnone := List.find?_eq_none.1 (Option.map_eq_none_iff.1 hget) e he
      simp at hnone
  · rintro ⟨v, hv⟩
    by_contra hid
    rw [get?_eq_none hid] at hv
    cases hv

/-- The first entry of a field is not looked for behind an entry of another field. -/
theorem get?_cons (e : ι × Value) (rest : List (ι × Value)) (id : ι) :
    (⟨e :: rest⟩ : Values ι).get? id = if e.1 = id then some e.2 else (⟨rest⟩ : Values ι).get? id := by
  rw [get?, List.find?_cons]
  by_cases he : e.1 = id
  · simp [he]
  · simp [he, get?]

theorem get?_append (xs ys : List (ι × Value)) (id : ι) :
    (⟨xs ++ ys⟩ : Values ι).get? id = ((⟨xs⟩ : Values ι).get? id).or ((⟨ys⟩ : Values ι).get? id) := by
  rw [get?, List.find?_append, Option.map_or]
  rfl

theorem get?_put (id : ι) (v : Value) (entries : List (ι × Value)) (k : ι) :
    (⟨(put id v entries).2⟩ : Values ι).get? k = if id = k then some v else (⟨entries⟩ : Values ι).get? k := by
  induction entries with
  | nil => exact get?_cons (id, v) [] k
  | cons e rest ih =>
    by_cases he : e.1 = id
    · simp only [put, he, if_true, get?_cons]
      by_cases hk : id = k
      · rw [if_pos hk, if_pos hk]
      · rw [if_neg hk, if_neg hk, if_neg hk]
    · simp only [put, if_neg he, get?_cons, ih]
      by_cases hk : e.1 = k
      · rw [if_pos hk, if_neg fun hid => he (hk.trans hid.symm), if_pos hk]
      · rw [if_neg hk, if_neg hk]

/-- A value that was given is the one of its field, and no other field's value changes. -/
theorem get?_insert (vs : Values ι) (id : ι) (v : Value) (k : ι) :
    (vs.insert id v).get? k = if id = k then some v else vs.get? k :=
  get?_put id v vs.entries k

/-! ## Equality -/

theorem beq_iff : (a == b) = true ↔ a.size = b.size ∧ ∀ e ∈ a.entries, b.get? e.1 = some e.2 := by
  change a.agree b = true ↔ _
  simp only [agree, Bool.and_eq_true, decide_eq_true_eq, List.all_eq_true]

/-- **Equality of sets without two values for a field**: the values of all fields are the same. A set with two values
for a field is not equal to such a one. -/
theorem Distinct.beq_iff (ha : a.Distinct) : (a == b) = true ↔ b.Distinct ∧ ∀ id, a.get? id = b.get? id := by
  have hkeys : ∀ vs : Values ι, (vs.entries.map Prod.fst).length = vs.size := fun _ => List.length_map _
  rw [Values.beq_iff]
  constructor
  · rintro ⟨hsize, hall⟩
    have hsub : a.entries.map Prod.fst ⊆ b.entries.map Prod.fst := by
      intro id hid
      obtain ⟨e, he, rfl⟩ := List.mem_map.1 hid
      exact mem_keys_iff.2 ⟨_, hall e he⟩
    -- as many different fields as the second set has entries
    have hperm : (a.entries.map Prod.fst).Perm (b.entries.map Prod.fst) :=
      (List.subperm_of_subset ha hsub).perm_of_length_le (by rw [hkeys, hkeys, hsize])
    refine ⟨hperm.nodup_iff.1 ha, fun id => ?_⟩
    by_cases hid : id ∈ a.entries.map Prod.fst
    · obtain ⟨e, he, rfl⟩ := List.mem_map.1 hid
      rw [get?_of_mem ha he, hall e he]
    · rw [get?_eq_none hid, get?_eq_none fun hb => hid (hperm.mem_iff.2 hb)]
  · rintro ⟨hb, hget⟩
    have hperm : (a.entries.map Prod.fst).Perm (b.entries.map Prod.fst) :=
      (List.perm_ext_iff_of_nodup ha hb).2 fun id => by rw [mem_keys_iff, mem_keys_iff, hget]
    refine ⟨by rw [← hkeys, ← hkeys, hperm.length_eq], fun e he => ?_⟩
    rw [← hget, get?_of_mem ha he]

/-! ## Hidden entries -/

/-- A field has an entry with a value behind an earlier one. -/
def Hides (vs : Values ι) (id : ι) (w : Value) : Prop :=
  ∃ before after, vs.entries = before ++ (id, w) :: after ∧ id ∈ before.map Prod.fst

/-- The sets have entries for the same fields in the same places, and the same values. -/
structure Alike (a b : Values ι) : Prop where
  keys : a.entries.map Prod.fst = b.entries.map Prod.fst
  get? : ∀ id, a.get? id = b.get? id

/-- Look-up does not see a hidden value, and equality finds that it is another one, but only from the set that hides
it. -/
theorem Alike.beq_ne {id : ι} {w : Value} (h : Alike a c) (hself : (a == a) = true) (hhides : c.Hides id w)
    (hne : a.get? id ≠ some w) : (a == c) = true ∧ (c == a) = false := by
  refine ⟨beq_iff.2 ⟨?_, fun e he => ?_⟩, Bool.eq_false_iff.2 fun hca => ?_⟩
  · have hlength := congrArg List.length h.keys
    rwa [List.length_map, List.length_map] at hlength
  · rw [← h.get?]
    exact (beq_iff.1 hself).2 e he
  · obtain ⟨before, after, hentries, -⟩ := hhides
    have hmem : (id, w) ∈ c.entries := by
      rw [hentries]
      exact List.mem_append_right _ List.mem_cons_self
    exact hne ((beq_iff.1 hca).2 (id, w) hmem)

theorem put_append_of_mem {id : ι} {before : List (ι × Value)} (h : id ∈ before.map Prod.fst) (v : Value)
    (after : List (ι × Value)) : (put id v (before ++ after)).2 = (put id v before).2 ++ after := by
  induction before with
  | nil => cases h
  | cons e before ih =>
    by_cases he : e.1 = id
    · simp only [List.cons_append, put, if_pos he]
    · have hrest : id ∈ before.map Prod.fst := (List.mem_cons.1 h).resolve_left (Ne.symm he)
      simp only [List.cons_append, put, if_neg he, ih hrest]

theorem put_append_of_not_mem {id : ι} {before : List (ι × Value)} (h : id ∉ before.map Prod.fst) (v : Value)
    (after : List (ι × Value)) : (put id v (before ++ after)).2 = before ++ (put id v after).2 := by
  induction before with
  | nil => rfl
  | cons e before ih =>
    rw [List.map_cons, List.mem_cons, not_or] at h
    simp only [List.cons_append, put, if_neg (Ne.symm h.1), ih h.2]

/-- A hidden entry stays hidden: giving the field a value changes the first entry. -/
theorem Hides.insert {id : ι} {w : Value} (h : vs.Hides id w) (k : ι) (v : Value) : (vs.insert k v).Hides id w := by
  obtain ⟨before, after, hentries, hid⟩ := h
  rw [Hides, entries_insert, hentries]
  by_cases hk : k ∈ before.map Prod.fst
  · refine ⟨(put k v before).2, after, put_append_of_mem hk v _, ?_⟩
    rwa [keys_put_of_mem hk]
  · have hne : id ≠ k := fun heq => hk (heq ▸ hid)
    refine ⟨before, (put k v after).2, ?_, hid⟩
    rw [put_append_of_not_mem hk, put, if_neg hne]

theorem Alike.insert (h : Alike a b) (id : ι) (v : Value) : Alike (a.insert id v) (b.insert id v) where
  keys := by
    rw [entries_insert, entries_insert, keys_put, keys_put, h.keys]
  get? k := by rw [get?_insert, get?_insert, h.get?]

theorem distinct_insert_iff {id : ι} {v : Value} : (vs.insert id v).Distinct ↔ vs.Distinct := by
  refine ⟨fun h => ?_, fun h => h.insert id v⟩
  rw [Distinct, entries_insert, keys_put] at h
  split at h
  · exact h
  · exact h.of_append_left

/-- What is hidden behind an earlier entry makes no difference to look-up. -/
theorem get?_append_cons {before : List (ι × Value)} {id : ι} (h : id ∈ before.map Prod.fst) (v w : Value)
    (after : List (ι × Value)) (k : ι) :
    (⟨before ++ (id, v) :: after⟩ : Values ι).get? k = (⟨before ++ (id, w) :: after⟩ : Values ι).get? k := by
  rw [get?_append, get?_append, get?_cons, get?_cons]
  by_cases hk : id = k
  · have hkey : k ∈ (⟨before⟩ : Values ι).entries.map Prod.fst := hk ▸ h
    obtain ⟨x, hx⟩ := mem_keys_iff.1 hkey
    rw [hx, Option.some_or, Option.some_or]
  · rw [if_neg hk, if_neg hk]

/-- Of fields that are not all different, one is listed behind an earlier entry. -/
theorem exists_repeated {α : Type} {l : List (ι × α)} (h : ¬(l.map Prod.fst).Nodup) :
    ∃ before id x after, l = before ++ (id, x) :: after ∧ id ∈ before.map Prod.fst := by
  induction l with
  | nil => exact absurd List.nodup_nil h
  | cons e l ih =>
    by_cases hl : (l.map Prod.fst).Nodup
    · have he : e.1 ∈ l.map Prod.fst := by
        by_contra hnew
        exact h (List.nodup_cons.2 ⟨hnew, hl⟩)
      obtain ⟨⟨id, x⟩, hx, hid⟩ := List.mem_map.1 he
      obtain ⟨before, after, rfl⟩ := List.append_of_mem hx
      exact ⟨e :: before, id, x, after, rfl, List.mem_cons.2 (Or.inl hid)⟩
    · obtain ⟨before, id, x, after, rfl, hid⟩ := ih hl
      exact ⟨e :: before, id, x, after, rfl, List.mem_cons_of_mem _ hid⟩

/-! ## Sets that can be obtained -/

variable [Named ι]

/-- How a set of values comes about: it is empty, made of a list, or decoded, and then it is given more values. Of a set
that was decoded the fields that its table lists are told. -/
inductive Obtained : List ι → Values ι → Prop
  | empty : Obtained [] ∅
  | ofList (items : List (ι × Value)) : Obtained [] (ofList items)
  | decode {t : Table ι} {buffer : Bytes} {vs : Values ι} :
      t.decode buffer = .ok vs → Obtained (t.fields.map Prod.fst) vs
  | insert {ids : List ι} {vs : Values ι} (id : ι) (v : Value) : Obtained ids vs → Obtained ids (vs.insert id v)

/-- **A set has two entries for a field exactly if it was decoded by a table that lists a field twice.** -/
theorem Obtained.distinct_iff {ids : List ι} (h : Obtained ids vs) : vs.Distinct ↔ ids.Nodup := by
  induction h with
  | empty => exact Iff.rfl
  | ofList items => exact ⟨fun _ => List.nodup_nil, fun _ => distinct_ofList items⟩
  | decode h =>
    rw [Distinct, Table.entries_of_decode h, List.map_map]
    rfl
  | insert id v _ ih => rw [distinct_insert_iff, ih]

/-- Of a table that lists a field twice, the second entry can be replaced by one that has room for nothing: an empty
byte string or an empty text is then hidden there, and all else is as it was. -/
theorem exists_hides_of_decode {t : Table ι} {buffer : Bytes} (h : t.decode buffer = .ok vs)
    (ht : ¬(t.fields.map Prod.fst).Nodup) :
    ∃ id, ∀ w ∈ [Value.bytes [], Value.text ""],
      ∃ c, c.Obtained (t.fields.map Prod.fst) ∧ Alike vs c ∧ c.Hides id w := by
  have hentries := Table.entries_of_decode h
  obtain ⟨before, id, s, after, hfields, hid⟩ := exists_repeated ht
  refine ⟨id, fun w hw => ?_⟩
  obtain ⟨s', hstop, hread⟩ : ∃ s' : Spec, s'.stop = 0 ∧ s'.read buffer = w := by
    rcases List.mem_cons.1 hw with rfl | hw
    · exact ⟨.bytes 0 0 .raw, rfl, rfl⟩
    · cases List.mem_singleton.1 hw
      exact ⟨.bytes 0 0 .text, rfl, rfl⟩
  have hstops : ∀ f ∈ before ++ (id, s') :: after, f.2.stop ≤ buffer.length := by
    have hold := fun f hf => Table.stop_le_of_decode (f := f) h hf
    rw [hfields] at hold
    intro f hf
    rcases List.mem_append.1 hf with hf | hf
    · exact hold f (List.mem_append_left _ hf)
    · rcases List.mem_cons.1 hf with rfl | hf
      · rw [hstop]
        exact Nat.zero_le _
      · exact hold f (List.mem_append_right _ (List.mem_cons_of_mem _ hf))
  have hdecode := Table.decode_eq_ok (t := ⟨before ++ (id, s') :: after⟩) (Table.minLength_le_iff.2 hstops)
  have hids : (before ++ (id, s') :: after).map Prod.fst = t.fields.map Prod.fst := by
    rw [hfields, List.map_append, List.map_append]
    rfl
  have hkeys : id ∈ (before.map fun f => (f.1, f.2.read buffer)).map Prod.fst := by
    rw [List.map_map]
    exact hid
  refine ⟨_, hids ▸ Obtained.decode hdecode, ?_, ?_⟩
  · obtain ⟨entries⟩ := vs
    cases hentries
    rw [hfields, List.map_append, List.map_append]
    exact ⟨by simp [Function.comp_def], get?_append_cons hkeys _ _ _⟩
  · rw [Hides, List.map_append, List.map_cons, hread]
    exact ⟨_, _, rfl, hkeys⟩

/-- A set with two entries for a field has others like it, in which different values are hidden. -/
theorem Obtained.exists_hides {ids : List ι} (h : Obtained ids vs) (hids : ¬ids.Nodup) :
    ∃ id, ∀ w ∈ [Value.bytes [], Value.text ""], ∃ c, c.Obtained ids ∧ Alike vs c ∧ c.Hides id w := by
  induction h with
  | empty | ofList _ => exact absurd List.nodup_nil hids
  | decode h => exact exists_hides_of_decode h hids
  | insert k v _ ih =>
    obtain ⟨id, hall⟩ := ih hids
    refine ⟨id, fun w hw => ?_⟩
    obtain ⟨c, hc, halike, hhides⟩ := hall w hw
    exact ⟨c.insert k v, hc.insert k v, halike.insert k v, hhides.insert k v⟩

/-- **Where equality is lawful.** Let two sets be obtained in any way.

If the first was not decoded by a table that lists a field twice, they are equal exactly if the second was not either
and they have the same value for every field, in whatever order. So among such sets equality is reflexive, symmetric and
transitive. A set that was decoded by a table that lists a field twice, if it is equal to itself at all, is equal to
one, of such a table again, that is not equal to it. -/
theorem equality_lawful {ids ids' : List ι} {a b : Values ι} (ha : a.Obtained ids) (hb : b.Obtained ids') :
    (ids.Nodup → ((a == b) = true ↔ ids'.Nodup ∧ ∀ id, a.get? id = b.get? id))
      ∧ (ids.Nodup → ids'.Nodup → (a == b) = (b == a))
      ∧ (¬ids.Nodup → (a == a) = true → ∃ c, c.Obtained ids ∧ (a == c) = true ∧ (c == a) = false) := by
  refine ⟨fun hids => ?_, fun hids hids' => ?_, fun hids hself => ?_⟩
  · rw [(ha.distinct_iff.2 hids).beq_iff, hb.distinct_iff]
  · rw [Bool.eq_iff_iff, (ha.distinct_iff.2 hids).beq_iff, (hb.distinct_iff.2 hids').beq_iff, ha.distinct_iff,
      hb.distinct_iff]
    exact ⟨fun h => ⟨hids, fun id => (h.2 id).symm⟩, fun h => ⟨hids', fun id => (h.2 id).symm⟩⟩
  · obtain ⟨id, hall⟩ := ha.exists_hides hids
    obtain ⟨w, hw, hne⟩ : ∃ w ∈ [Value.bytes [], Value.text ""], a.get? id ≠ some w := by
      by_cases hget : a.get? id = some (.bytes [])
      · exact ⟨.text "", List.mem_cons_of_mem _ List.mem_cons_self, by rw [hget]; nofun⟩
      · exact ⟨.bytes [], List.mem_cons_self, hget⟩
    obtain ⟨c, hc, halike, hhides⟩ := hall w hw
    exact ⟨c, hc, halike.beq_ne hself hhides hne⟩

/-- Two fields in two bytes. -/
def pairTable : Table String := ⟨[("x", .bytes 0 1 .littleEndian), ("y", .bits 8 4)]⟩

/-- A byte that is listed twice. -/
def repeatedTable : Table String := ⟨[("x", .bytes 0 1 .littleEndian), ("x", .bytes 0 1 .littleEndian)]⟩

/-- A set that was decoded and changed is equal to a list of the same values in another order. A set with a field twice
is equal to itself, and to one that is not equal to it. -/
theorem equality_lawful_reordered : (let decoded : Values String := ⟨[("x", .uint 1), ("y", .uint 2)]⟩
    let repeated : Values String := ⟨[("x", .uint 1), ("x", .uint 1)]⟩
    let listed : Values String := .ofList [("y", .uint 2), ("x", .uint 9), ("x", .uint 7)]
    pairTable.decode [1, 0xF2] = .ok decoded ∧ (decoded.insert "x" (.uint 7) == listed) = true
      ∧ (listed == decoded.insert "x" (.uint 7)) = true
      ∧ repeatedTable.decode [1] = .ok repeated ∧ (decoded == repeated) = false
      ∧ ∃ c, c.Obtained ["x", "x"] ∧ (repeated == c) = true ∧ (c == repeated) = false) := by
  intro decoded repeated listed
  have hdecode : pairTable.decode [1, 0xF2] = .ok decoded := rfl
  have hrepeat : repeatedTable.decode [1] = .ok repeated := rfl
  have hdecoded : decoded.Obtained ["x", "y"] := .decode hdecode
  have hrepeated : repeated.Obtained ["x", "x"] := .decode hrepeat
  have hlisted : listed.Obtained [] := .ofList _
  obtain ⟨-, hsame, -⟩ := equality_lawful (hdecoded.insert "x" (.uint 7)) hlisted
  obtain ⟨hother, -, -⟩ := equality_lawful hdecoded hrepeated
  obtain ⟨-, -, hbroken⟩ := equality_lawful hrepeated hrepeated
  have hequal : (decoded.insert "x" (.uint 7) == listed) = true := by decide
  refine ⟨hdecode, hequal, ?_, hrepeat, ?_, hbroken (by decide) (by decide)⟩
  · rw [← hsame (by decide) (by decide), hequal]
  · exact Bool.eq_false_iff.2 fun h => absurd ((hother (by decide)).1 h).1 (by decide)

/-- **A set with a field twice** is equal to one with another field in the second place, which is not equal to it, and
has a value that it has not. -/
theorem repeated_field_asymmetric : ¬∀ (ids ids' : List String) (a b : Values String),
    a.Obtained ids → b.Obtained ids' →
      ((a == b) = true ↔ (b == a) = true) ∧ ((a == b) = true → ∀ id, a.get? id = b.get? id) := by
  intro hall
  have hrepeat : repeatedTable.decode [1] = .ok ⟨[("x", .uint 1), ("x", .uint 1)]⟩ := rfl
  obtain ⟨hsymm, -⟩ := hall _ _ _ _ (.decode hrepeat) (.ofList [("x", .uint 1), ("y", .uint 2)])
  exact absurd (hsymm.1 (by decide)) (by decide)

end Values

end StorageCommands.Layout
