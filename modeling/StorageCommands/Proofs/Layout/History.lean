import Mathlib.Data.Finset.Card
import StorageCommands.Proofs.Layout.Equality

/-!
# Sets of values as finite maps

A set of values is made by giving fields their values, one after the other, or all of a list at once (`Step`). What it
holds then is told by the list of what was given (`given`): `MapOf` says that the set is the finite map of that list,
with its fields in the order in which they were first given. One more value keeps this (`MapOf.insert`), and so does
every step (`mapOf_after`).

`history_is_map` adds what giving a value tells, and how many values there are.
-/

namespace StorageCommands.Layout.Values

variable {ι : Type}

/-! ## Histories -/

/-- What is done to a set of values. -/
inductive Step (ι : Type)
  /-- A field is given a value, and the value that it had before is told. -/
  | insert (id : ι) (v : Value)
  /-- A field is given a value. -/
  | withValue (id : ι) (v : Value)
  /-- The set is made anew of a list. -/
  | collect (items : List (ι × Value))

/-- What was given to a set since it was last made anew, in order. -/
def given (steps : List (Step ι)) : List (ι × Value) :=
  steps.foldl (fun items step => match step with
    | .insert id v | .withValue id v => items ++ [(id, v)]
    | .collect new => new) []

theorem given_append (steps : List (Step ι)) (step : Step ι) : given (steps ++ [step]) = match step with
    | .insert id v | .withValue id v => given steps ++ [(id, v)]
    | .collect new => new := by
  rw [given, List.foldl_append]
  rfl

variable [DecidableEq ι]

/-- The set after a step. -/
def Step.after (vs : Values ι) : Step ι → Values ι
  | .insert id v => (vs.exchange id v).2
  | .withValue id v => vs.insert id v
  | .collect items => ofList items

/-- The set that steps make of the empty one. -/
def after (steps : List (Step ι)) : Values ι := steps.foldl Step.after ∅

/-- The value that a field was given last. -/
def lastGiven (items : List (ι × Value)) (id : ι) : Option Value :=
  (items.reverse.find? fun e => e.1 = id).map Prod.snd

/-- The fields of the set, in its order. -/
def keys (vs : Values ι) : List ι := vs.entries.map Prod.fst

theorem lastGiven_append (items : List (ι × Value)) (id : ι) (v : Value) (k : ι) :
    lastGiven (items ++ [(id, v)]) k = if id = k then some v else lastGiven items k := by
  rw [lastGiven, List.reverse_append, List.reverse_singleton, List.singleton_append, List.find?_cons]
  by_cases hk : id = k
  · simp [hk]
  · simp [hk, lastGiven]

/-! ## Finite maps -/

/-- The set is the finite map of what was given, its fields in the order in which they were first given. -/
structure MapOf (items : List (ι × Value)) (vs : Values ι) : Prop where
  distinct : vs.Distinct
  mem_keys : ∀ id, id ∈ vs.keys ↔ id ∈ items.map Prod.fst
  order : vs.keys.Pairwise fun id id' => (items.map Prod.fst).idxOf id < (items.map Prod.fst).idxOf id'
  get?_eq : ∀ id, vs.get? id = lastGiven items id

theorem mapOf_empty : MapOf [] (∅ : Values ι) where
  distinct := List.nodup_nil
  mem_keys _ := Iff.rfl
  order := List.Pairwise.nil
  get?_eq _ := rfl

namespace MapOf

variable {items : List (ι × Value)} {vs : Values ι}

/-- A field that was given before stays in its place, and a new one comes last. -/
theorem keys_insert (h : MapOf items vs) (id : ι) (v : Value) :
    (vs.insert id v).keys = if id ∈ items.map Prod.fst then vs.keys else vs.keys ++ [id] := by
  have hkeys := keys_put id v vs.entries
  simp only [← h.mem_keys]
  exact hkeys

/-- Where the fields were first given does not change when one more is given. -/
theorem idxOf_append {id : ι} (h : id ∈ items.map Prod.fst) (e : ι × Value) :
    ((items ++ [e]).map Prod.fst).idxOf id = (items.map Prod.fst).idxOf id := by
  rw [List.map_append, List.idxOf_append_of_mem h]

/-- **One more value** makes the finite map of one more item. -/
theorem insert (h : MapOf items vs) (id : ι) (v : Value) : MapOf (items ++ [(id, v)]) (vs.insert id v) where
  distinct := h.distinct.insert id v
  mem_keys k := by
    rw [h.keys_insert, List.map_append, List.mem_append, List.map_singleton, List.mem_singleton]
    split
    · rename_i hid
      rw [h.mem_keys]
      exact ⟨Or.inl, fun hk => hk.elim (fun hk => hk) fun heq => heq ▸ hid⟩
    · rw [List.mem_append, List.mem_singleton, h.mem_keys]
  order := by
    have hold : vs.keys.Pairwise fun k k' =>
        ((items ++ [(id, v)]).map Prod.fst).idxOf k < ((items ++ [(id, v)]).map Prod.fst).idxOf k' :=
      h.order.imp_of_mem fun hk hk' hlt => by
        rwa [idxOf_append ((h.mem_keys _).1 hk), idxOf_append ((h.mem_keys _).1 hk')]
    rw [h.keys_insert]
    split
    · exact hold
    · rename_i hid
      refine List.pairwise_append.2 ⟨hold, List.pairwise_singleton _ _, fun k hk k' hk' => ?_⟩
      cases List.mem_singleton.1 hk'
      have hmem := (h.mem_keys k).1 hk
      rw [idxOf_append hmem, List.map_append, List.idxOf_append_of_notMem hid]
      exact Nat.lt_of_lt_of_le (List.idxOf_lt_length_of_mem hmem) (Nat.le_add_right _ _)
  get?_eq k := by rw [get?_insert, lastGiven_append, h.get?_eq]

/-- There are as many values as different fields were given. -/
theorem size_eq (h : MapOf items vs) : vs.size = (items.map Prod.fst).toFinset.card := by
  have hsame : vs.keys.toFinset = (items.map Prod.fst).toFinset := by
    ext id
    rw [List.mem_toFinset, List.mem_toFinset, h.mem_keys]
  have hcard : vs.keys.toFinset.card = vs.keys.length := List.toFinset_card_of_nodup h.distinct
  rw [← hsame, hcard, keys, List.length_map]
  rfl

end MapOf

/-- The values of a list, given one after the other. -/
theorem mapOf_ofList (items : List (ι × Value)) : MapOf items (ofList items) := by
  induction items using List.reverseRecOn with
  | nil => exact mapOf_empty
  | append_singleton items e ih =>
    rw [ofList_concat]
    exact ih.insert e.1 e.2

/-! ## Steps -/

theorem after_append (steps : List (Step ι)) (step : Step ι) : after (steps ++ [step]) = step.after (after steps) := by
  rw [after, List.foldl_append]
  rfl

/-- **All steps** make the finite map of what was given. -/
theorem mapOf_after (steps : List (Step ι)) : MapOf (given steps) (after steps) := by
  induction steps using List.reverseRecOn with
  | nil => exact mapOf_empty
  | append_singleton steps step ih =>
    rw [after_append, given_append]
    cases step with
    | insert id v => exact ih.insert id v
    | withValue id v => exact ih.insert id v
    | collect items => exact mapOf_ofList items

/-- Giving a field a value tells the value that the field had before. -/
theorem exchange_fst (vs : Values ι) (id : ι) (v : Value) : (vs.exchange id v).1 = vs.get? id := by
  obtain ⟨entries⟩ := vs
  change (put id v entries).1 = _
  induction entries with
  | nil => rfl
  | cons e rest ih =>
    rw [get?_cons, put]
    by_cases he : e.1 = id
    · rw [if_pos he, if_pos he]
    · rw [if_neg he, if_neg he]
      exact ih

/-- Giving the items of a list one by one. -/
theorem after_insert_all (items : List (ι × Value)) :
    after (items.map fun e => Step.insert e.1 e.2) = ofList items := by
  rw [after, List.foldl_map]
  rfl

/-- **A set of values is a finite map** in the order in which its fields were first given, whatever was done to it.

No field has two values. The value of a field is the one that it was given last, and giving it another one tells this
value. There are as many values as different fields were given. A set that is made of a list is the one that its items
make, given one by one. -/
theorem history_is_map (steps : List (Step ι)) :
    MapOf (given steps) (after steps)
      ∧ (after steps).size = ((given steps).map Prod.fst).toFinset.card
      ∧ (∀ id v, (after steps).exchange id v = (lastGiven (given steps) id, after (steps ++ [.insert id v])))
      ∧ (∀ id v, after (steps ++ [.withValue id v]) = after (steps ++ [.insert id v]))
      ∧ ∀ items, after (steps ++ [.collect items]) = after (items.map fun e => .insert e.1 e.2)
        ∧ (after (steps ++ [.collect items]) == after (items.map fun e => .insert e.1 e.2)) = true := by
  have hmap := mapOf_after steps
  refine ⟨hmap, hmap.size_eq, fun id v => ?_, fun id v => ?_, fun items => ?_⟩
  · rw [after_append]
    exact Prod.ext ((exchange_fst _ id v).trans (hmap.get?_eq id)) rfl
  · rw [after_append, after_append]
    rfl
  · have hsame : after (steps ++ [.collect items]) = after (items.map fun e => .insert e.1 e.2) := by
      rw [after_append, after_insert_all]
      rfl
    have hdistinct := (mapOf_after (steps ++ [.collect items])).distinct
    exact ⟨hsame, hsame ▸ hdistinct.beq_iff.2 ⟨hdistinct, fun _ => rfl⟩⟩

/-- A field that is given another value keeps its place, and one that comes back after the set was made anew does
not. -/
example : (after [.collect [("x", .uint 1), ("y", .uint 2)], .insert "x" (.uint 3)]).entries
      = [("x", .uint 3), ("y", .uint 2)]
    ∧ (after [.insert "x" (.uint 1), .collect [("y", .uint 2)], .withValue "x" (.uint 3)]).entries
      = [("y", .uint 2), ("x", .uint 3)] := by decide

end StorageCommands.Layout.Values
