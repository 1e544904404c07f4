import StorageCommands.Proofs.Ata.CommandBlocks

/-!
# Which requests the command blocks refuse

Encoding checks the values of a block in the order in which they are given, and reports the first integer that is larger
than its field holds (`LaysOut.encode_eq_error_iff`). Most values of a block fit for every request
(`firstFault_values16`, `firstFault_values12`): a register that takes a whole field, a flag, and also what is computed,
the pairs of a block address and the device register that bits of the address are set in. What is left are the parts of
a request that have more bits than their field, so that the first of them that is too large is what a block reports
(`blocks_refuse`).
-/

namespace StorageCommands.Ata

open Bytes Layout

/-- An integer that is given for a field, and the largest one that there is room for. -/
structure Limited where
  field : PassThroughField
  value : Nat
  max : Nat
  deriving DecidableEq, Repr

namespace Limited

/-- Why the integer is refused, if it is. -/
def fault? (l : Limited) : Option Layout.Error :=
  if l.max < l.value then some (.valueTooLarge (Named.name l.field) l.value l.max) else none

/-- The integer of an entry, with the largest one that its field holds. -/
def ofEntry (register : Nat) (e : PassThroughField × Value) : Limited :=
  ⟨e.1, e.2.uint?.getD 0, largest register e.1⟩

theorem fault?_eq_none_iff {l : Limited} : l.fault? = none ↔ l.value ≤ l.max := by
  simp [fault?]

theorem fault?_eq_some_iff {l : Limited} {err : Layout.Error} :
    l.fault? = some err ↔ l.max < l.value ∧ err = .valueTooLarge (Named.name l.field) l.value l.max := by
  simp [fault?, eq_comm]

end Limited

/-- Why the first of the integers that are too large is refused. -/
def firstFault (ls : List Limited) : Option Layout.Error := ls.findSome? Limited.fault?

/-- There is a fault if an integer is too large. -/
theorem exists_firstFault_iff {ls : List Limited} :
    (∃ err, firstFault ls = some err) ↔ ∃ l ∈ ls, l.max < l.value := by
  rw [← Option.isSome_iff_exists, firstFault, List.isSome_findSome?, List.any_eq_true]
  simp only [Option.isSome_iff_exists, Limited.fault?_eq_some_iff, exists_and_left, exists_eq, and_true]

theorem firstFault_cons (l : Limited) (ls : List Limited) :
    firstFault (l :: ls) = l.fault?.or (firstFault ls) := by
  rw [firstFault, List.findSome?_cons]
  cases l.fault? <;> rfl

/-- Integers that fit do not count. -/
theorem firstFault_filter {ls : List Limited} {p : Limited → Bool} (h : ∀ l ∈ ls, p l = false → l.value ≤ l.max) :
    firstFault (ls.filter p) = firstFault ls := by
  induction ls with
  | nil => rfl
  | cons l ls ih =>
    obtain ⟨hl, hrest⟩ := List.forall_mem_cons.1 h
    specialize ih hrest
    rw [firstFault_cons]
    cases hp : p l with
    | true => rw [List.filter_cons_of_pos hp, firstFault_cons, ih]
    | false =>
      rw [List.filter_cons_of_neg (by rw [hp]; exact Bool.false_ne_true), ih, Limited.fault?_eq_none_iff.2 (hl hp),
        Option.none_or]

section

variable {t : Table PassThroughField} {register size : Nat} {entries : List (PassThroughField × Value)}

/-- The largest integer of a field of a block. -/
theorem LaysOut.maxValue_of_spec? (ht : LaysOut t register size) {id : PassThroughField} {s : Spec}
    (hs : t.spec? id = some s) : s.maxValue = some (largest register id) :=
  ht.maxValue _ (Table.mem_of_spec? hs)

/-- An integer that has no fault fits its field. -/
theorem LaysOut.le_of_fault? (ht : LaysOut t register size) {e : PassThroughField × Value}
    (h : (Limited.ofEntry register e).fault? = none) {s : Spec} (hs : t.spec? e.1 = some s) {n : Nat}
    (hn : e.2 = .uint n) : ∀ max ∈ s.maxValue, n ≤ max := by
  have hle := Limited.fault?_eq_none_iff.1 h
  rw [Limited.ofEntry, hn] at hle
  rw [ht.maxValue_of_spec? hs]
  rintro _ ⟨⟩
  exact hle

/-- **What encoding integers reports**: the first one that is larger than its field holds. -/
theorem LaysOut.encode_eq_error_iff (ht : LaysOut t register size) (hu : ∀ e ∈ entries, ∃ n, e.2 = .uint n)
    (hs : ∀ e ∈ entries, ∃ s, t.spec? e.1 = some s) {err : Layout.Error} :
    t.encode ⟨entries⟩ (zeros size) = .error err ↔ firstFault (entries.map (Limited.ofEntry register)) = some err := by
  have hsize := Nat.le_of_eq ht.minLength
  have hreport {err : Layout.Error} (hfirst : firstFault (entries.map (Limited.ofEntry register)) = some err) :
      t.encode ⟨entries⟩ (zeros size) = .error err := by
    rw [firstFault, List.findSome?_map, List.findSome?_eq_some_iff] at hfirst
    obtain ⟨before, ⟨id, v⟩, after, rfl, hfault, hbefore⟩ := hfirst
    obtain ⟨n, rfl⟩ : ∃ n, v = .uint n := hu _ (List.mem_append_right _ List.mem_cons_self)
    obtain ⟨s, hspec⟩ : ∃ s, t.spec? id = some s := hs _ (List.mem_append_right _ List.mem_cons_self)
    obtain ⟨hlt, rfl⟩ := Limited.fault?_eq_some_iff.1 hfault
    refine Table.encode_uint_eq_error ht.plain hsize before (fun e he => ?_) hspec (ht.maxValue_of_spec? hspec) hlt
    obtain ⟨k, hk⟩ := hu e (List.mem_append_left _ he)
    exact ⟨k, hk, fun s hspec => ht.le_of_fault? (hbefore e he) hspec hk⟩
  refine ⟨fun hencode => ?_, hreport⟩
  cases hfirst : firstFault (entries.map (Limited.ofEntry register)) with
  | some err' =>
    cases (hreport hfirst).symm.trans hencode
    rfl
  | none =>
    -- without a fault encoding succeeds
    rw [firstFault, List.findSome?_map, List.findSome?_eq_none_iff] at hfirst
    obtain ⟨b, hb⟩ : ∃ b, t.encode ⟨entries⟩ (zeros size) = .ok b :=
      (Table.encode_uint_isOk_iff ht.plain hsize hu).2 fun e he s hspec k hk => ht.le_of_fault? (hfirst e he) hspec hk
    cases hb.symm.trans hencode

end

namespace PassThrough

variable (r : PassThrough)

/-- The parts of a request that both blocks have too few bits for, in the order in which they are checked. -/
def narrowFlags : List Limited :=
  [⟨.multipleCount, r.multipleCount.toNat, 7⟩,
   ⟨.protocol, r.protocol.toNat, 15⟩,
   ⟨.offLine, r.offLine.toNat, 3⟩,
   ⟨.tLength, r.length.toNat, 3⟩]

/-- The registers that only the 12-byte block has too few bits for. -/
def narrowRegisters : List Limited :=
  [⟨.features, r.taskfile.features.toNat, 0xff⟩,
   ⟨.count, r.taskfile.count.toNat, 0xff⟩]

/-- The block address, of which the 12-byte block has 28 bits. -/
def narrowAddress : Limited := ⟨.lbaHigh, r.taskfile.lba.toNat, 2 ^ 28 - 1⟩

/-- What a request can make a 12-byte block fail with, in the order in which it is checked. -/
def narrow12 : List Limited := r.narrowAddress :: (r.narrowFlags ++ r.narrowRegisters)

/-! ## The values that always fit -/

/-- Everything but the flags fits into a 16-byte block, whatever the request. -/
theorem firstFault_values16 : firstFault (r.values16.map (Limited.ofEntry 0xffff)) = firstFault r.narrowFlags := by
  have h8 : ∀ x : UInt8, x.toNat ≤ 255 := fun x => Nat.le_of_lt_succ x.toNat_lt
  have h16 : ∀ x : UInt16, x.toNat ≤ 65535 := fun x => Nat.le_of_lt_succ x.toNat_lt
  let narrow (l : Limited) : Bool := l.field ∈ [.multipleCount, .protocol, .offLine, .tLength]
  have hfilter : r.narrowFlags = (r.values16.map (Limited.ofEntry 0xffff)).filter narrow := rfl
  rw [hfilter]
  refine (firstFault_filter ?_).symm
  simp [values16, flags, largest, Value.ofBool, Value.uint?, Limited.ofEntry, narrow, h8, h16, lbaPair_lt,
    Bool.toNat_le]

/-- Everything but the flags and two registers fits into a 12-byte block, whatever the request with an address of 28
bits: the device register too, with bits of the address set in it. -/
theorem firstFault_values12 (h : r.taskfile.lba ≤ maxLba28) :
    firstFault (r.values12.map (Limited.ofEntry 0xff)) = firstFault (r.narrowFlags ++ r.narrowRegisters) := by
  have h8 : ∀ x : UInt8, x.toNat ≤ 255 := fun x => Nat.le_of_lt_succ x.toNat_lt
  have hmod : ∀ n : Nat, n % 256 ≤ 255 := fun n => by omega
  have hdevice := Nat.le_of_lt_succ (device_or_lt r.taskfile.device h)
  let narrow (l : Limited) : Bool := l.field ∈ [.multipleCount, .protocol, .offLine, .tLength, .features, .count]
  have hfilter : r.narrowFlags ++ r.narrowRegisters = (r.values12.map (Limited.ofEntry 0xff)).filter narrow := rfl
  rw [hfilter]
  refine (firstFault_filter ?_).symm
  simp [values12, flags, largest, Value.ofBool, Value.uint?, Limited.ofEntry, narrow, h8, hmod, hdevice, Bool.toNat_le]

/-! ## What is refused -/

variable {r} {err : Layout.Error}

theorem block16_eq_error_iff : r.block16 = .error err ↔ firstFault r.narrowFlags = some err := by
  rw [← firstFault_values16]
  exact laysOut_16.encode_eq_error_iff r.values16_uint fun e _ => spec?_16 e.1

theorem block12_eq_error_iff : r.block12 = .error err ↔ firstFault r.narrow12 = some err := by
  rw [block12, narrow12, firstFault_cons]
  by_cases h : maxLba28 < r.taskfile.lba
  · have hfault : r.narrowAddress.fault?
        = some (.valueTooLarge (Named.name PassThroughField.lbaHigh) r.taskfile.lba.toNat maxLba28.toNat) :=
      Limited.fault?_eq_some_iff.2 ⟨UInt64.lt_iff_toNat_lt.1 h, rfl⟩
    rw [if_pos h, hfault, Option.some_or, Except.error.injEq, Option.some.injEq]
  · have hle := UInt64.not_lt.1 h
    have hfits : r.narrowAddress.fault? = none := Limited.fault?_eq_none_iff.2 (UInt64.le_iff_toNat_le.1 hle)
    rw [if_neg h, hfits, Option.none_or, ← firstFault_values12 r hle]
    exact laysOut_12.encode_eq_error_iff (fun e he => (r.values12_uint e he).2)
      fun e he => spec?_12 e.1 (r.values12_uint e he).1

/-- **Which requests are refused, and why.** The 16-byte block refuses a request exactly if a flag is too large, and the
12-byte block also if the address is, or one of two registers; no other part of a request makes a block fail. What is
reported is the first of them in the order in which they are listed here, with its value and the largest one that there
is room for. The 16-byte block never refuses an address. -/
theorem blocks_refuse (r : PassThrough) :
    (∀ err, r.block16 = .error err ↔ firstFault r.narrowFlags = some err)
      ∧ ((∃ err, r.block16 = .error err) ↔
        7 < r.multipleCount.toNat ∨ 15 < r.protocol.toNat ∨ 3 < r.offLine.toNat ∨ 3 < r.length.toNat)
      ∧ (∀ err, r.block12 = .error err ↔ firstFault r.narrow12 = some err)
      ∧ ((∃ err, r.block12 = .error err) ↔
        2 ^ 28 - 1 < r.taskfile.lba.toNat
          ∨ (7 < r.multipleCount.toNat ∨ 15 < r.protocol.toNat ∨ 3 < r.offLine.toNat ∨ 3 < r.length.toNat)
          ∨ 0xff < r.taskfile.features.toNat ∨ 0xff < r.taskfile.count.toNat) := by
  refine ⟨fun _ => block16_eq_error_iff, ?_, fun _ => block12_eq_error_iff, ?_⟩
  · simp only [block16_eq_error_iff, exists_firstFault_iff, narrowFlags, List.exists_mem_cons_iff, List.not_mem_nil,
      false_and, exists_false, or_false]
  · simp only [block12_eq_error_iff, exists_firstFault_iff, narrow12, narrowAddress, narrowFlags, narrowRegisters,
      List.cons_append, List.nil_append, List.exists_mem_cons_iff, List.not_mem_nil, false_and, exists_false, or_false,
      or_assoc]

/-- Of three values that are too large the address is reported. -/
example : PassThrough.block12
    { protocol := 0x10
      direction := .toDevice
      offLine := 4
      taskfile := { lba := 0x10000000, command := 0xe5 } }
    = .error (.valueTooLarge "LbaHigh" 0x10000000 0xfffffff) := by
  decide +kernel

end PassThrough

end StorageCommands.Ata
