import StorageCommands.Nvme.Command
import StorageCommands.Proofs.Layout.Checks

/-!
# A command in the making

A command is made by setting one thing after the other (`Setting`). Only packing values into a dword can fail:
`setAll_isOk_iff` says when all settings are made, and `setAll_eq_error_iff` which of them is the first that is not.

What one part of the builder holds in the end is a fold over the settings (`setAll_part`). A part that a setting
replaces as a whole holds what it was set to last (`foldl_or`).
-/

namespace StorageCommands.Nvme

open Layout

/-- One thing that is set of a command in the making. -/
inductive Setting : Type 1
  | nsid (v : UInt32)
  | cdw2 (v : UInt32)
  | cdw3 (v : UInt32)
  | word (w : Word) (v : UInt32)
  | encodeWord {ι : Type} [DecidableEq ι] [Named ι] (w : Word) (t : Table ι) (values : Values ι)
  | transferLength (len : Nat)
  /-- The command moves its data through a buffer that somebody else lends. -/
  | lentBuffer (buffer : DataBuffer)
  /-- The command moves its data through a buffer that it gets for its own. -/
  | ownedBuffer (buffer : DataBuffer)
  | metadata (buffer : DataBuffer)
  | timeout (t : Duration)

namespace Setting

/-- The values of a setting can be stored in a dword. -/
def Accepted : Setting → Prop
  | encodeWord _ t values => t.Accepts values.entries 4
  | _ => True

/-- The setting fails: the first value that cannot be stored in a dword says why, as it does when the values are encoded
(`Table.encode_eq_error_iff`). -/
inductive RefusedBy : Setting → BuildError → Prop
  | encodeWord {ι : Type} [DecidableEq ι] [Named ι] {w : Word} {t : Table ι} {values : Values ι} {cause : Layout.Error}
      (h : t.Refuses values.entries 4 cause) : RefusedBy (Setting.encodeWord w t values) (.encode w cause)

/-- The region that is set. -/
def region? : Setting → Option Region
  | lentBuffer buffer => some ⟨buffer, true⟩
  | ownedBuffer buffer => some ⟨buffer, false⟩
  | _ => none

/-- The transfer length that is set. -/
def transferLength? : Setting → Option Nat
  | transferLength len => some len
  | _ => none

end Setting

theorem length_dwordBytes (v : UInt32) : (dwordBytes v).length = 4 := Bytes.length_ofLittleEndian ..

namespace CommandBuilder

/-- Sets one thing. -/
def set (b : CommandBuilder) : Setting → Except BuildError CommandBuilder
  | .nsid v => .ok { b with nsid := v }
  | .cdw2 v => .ok { b with cdw2 := v }
  | .cdw3 v => .ok { b with cdw3 := v }
  | .word w v => .ok (b.withWord w v)
  | @Setting.encodeWord _ _ _ w t values => b.encodeWord w t values
  | .transferLength len => .ok { b with transferLength := some len }
  | .lentBuffer buffer => .ok { b with region := some ⟨buffer, true⟩ }
  | .ownedBuffer buffer => .ok { b with region := some ⟨buffer, false⟩ }
  | .metadata buffer => .ok { b with metadata := some buffer }
  | .timeout t => .ok { b with timeout := some t }

/-- Sets one thing after the other. -/
def setAll (b : CommandBuilder) (settings : List Setting) : Except BuildError CommandBuilder := settings.foldlM set b

variable {b b' : CommandBuilder} {s : Setting} {settings : List Setting}

/-! ## One setting -/

section

variable {ι : Type} [DecidableEq ι] [Named ι] {w : Word} {t : Table ι} {values : Values ι}

/-- Encoding a dword replaces it by what its bytes become. -/
theorem encodeWord_eq_ok_iff : b.encodeWord w t values = .ok b' ↔
    ∃ bytes, t.encode values (dwordBytes (b.words.get w)) = .ok bytes ∧ b' = b.withWord w (dwordAt bytes 0) := by
  rw [encodeWord]
  cases t.encode values (dwordBytes (b.words.get w)) with
  | ok bytes => simp [eq_comm]
  | error cause => simp

theorem encodeWord_eq_error_iff {e : BuildError} : b.encodeWord w t values = .error e ↔
    ∃ cause, t.encode values (dwordBytes (b.words.get w)) = .error cause ∧ e = .encode w cause := by
  rw [encodeWord]
  cases t.encode values (dwordBytes (b.words.get w)) with
  | ok bytes => simp
  | error cause => simp [eq_comm]

end

/-- Whether a setting is made does not depend on what was set before. -/
theorem set_isOk_iff (b : CommandBuilder) (s : Setting) : (∃ b', b.set s = .ok b') ↔ s.Accepted := by
  cases s with
  | encodeWord w t values =>
    have hencode : (∃ bytes, t.encode values (dwordBytes (b.words.get w)) = .ok bytes)
        ↔ t.Accepts values.entries 4 := by
      rw [Table.encode_isOk_iff, length_dwordBytes]
    refine Iff.trans ?_ hencode
    constructor
    · rintro ⟨b', hb'⟩
      obtain ⟨bytes, hbytes, -⟩ := encodeWord_eq_ok_iff.1 hb'
      exact ⟨bytes, hbytes⟩
    · rintro ⟨bytes, hbytes⟩
      exact ⟨_, encodeWord_eq_ok_iff.2 ⟨bytes, hbytes, rfl⟩⟩
  | _ => exact ⟨fun _ => trivial, fun _ => ⟨_, rfl⟩⟩

/-- Why a setting is not made does not depend on what was set before either. -/
theorem set_eq_error_iff {e : BuildError} : b.set s = .error e ↔ s.RefusedBy e := by
  constructor
  · intro h
    cases s with
    | encodeWord w t values =>
      obtain ⟨cause, hcause, rfl⟩ := encodeWord_eq_error_iff.1 h
      have hrefused := Table.encode_eq_error_iff.1 hcause
      rw [length_dwordBytes] at hrefused
      exact .encodeWord hrefused
    | _ => cases h
  · rintro ⟨hrefused⟩
    exact encodeWord_eq_error_iff.2 ⟨_, Table.encode_eq_error_iff.2 (by rwa [length_dwordBytes]), rfl⟩

/-! ## All settings -/

theorem setAll_cons_eq_ok_iff : b.setAll (s :: settings) = .ok b' ↔
    ∃ b₁, b.set s = .ok b₁ ∧ b₁.setAll settings = .ok b' := by
  rw [setAll, List.foldlM_cons, bind_eq_ok]
  rfl

/-- **All settings are made** if the values of each can be stored. -/
theorem setAll_isOk_iff (b : CommandBuilder) (settings : List Setting) :
    (∃ b', b.setAll settings = .ok b') ↔ ∀ s ∈ settings, s.Accepted := by
  induction settings generalizing b with
  | nil => exact ⟨fun _ => List.forall_mem_nil _, fun _ => ⟨b, rfl⟩⟩
  | cons s settings ih =>
    rw [List.forall_mem_cons, ← set_isOk_iff b s]
    constructor
    · rintro ⟨b', h⟩
      obtain ⟨b₁, hb₁, hrest⟩ := setAll_cons_eq_ok_iff.1 h
      exact ⟨⟨b₁, hb₁⟩, (ih b₁).1 ⟨b', hrest⟩⟩
    · rintro ⟨⟨b₁, hb₁⟩, hrest⟩
      obtain ⟨b', hb'⟩ := (ih b₁).2 hrest
      exact ⟨b', setAll_cons_eq_ok_iff.2 ⟨b₁, hb₁, hb'⟩⟩

/-- **The first setting that is not made** says what is wrong. -/
theorem setAll_eq_error_iff {e : BuildError} : b.setAll settings = .error e ↔
    ∃ before s after b₁, settings = before ++ s :: after ∧ b.setAll before = .ok b₁ ∧ s.RefusedBy e := by
  constructor
  · intro h
    induction settings generalizing b with
    | nil => cases h
    | cons s settings ih =>
      rw [setAll, List.foldlM_cons] at h
      cases hs : b.set s with
      | error e' =>
        rw [hs] at h
        cases h
        exact ⟨[], s, settings, b, rfl, rfl, set_eq_error_iff.1 hs⟩
      | ok b₁ =>
        rw [hs] at h
        obtain ⟨before, s', after, b₂, rfl, hbefore, hrefused⟩ := ih h
        exact ⟨s :: before, s', after, b₂, rfl, setAll_cons_eq_ok_iff.2 ⟨b₁, hs, hbefore⟩, hrefused⟩
  · rintro ⟨before, s, after, b₁, rfl, hbefore, hrefused⟩
    have hbefore' : before.foldlM set b = .ok b₁ := hbefore
    rw [setAll, List.foldlM_append, hbefore']
    change (s :: after).foldlM set b₁ = .error e
    rw [List.foldlM_cons, set_eq_error_iff.2 hrefused]
    rfl

/-! ## What is set in the end -/

/-- **A part of the builder** holds what the settings make of it, one after the other. -/
theorem setAll_part {α : Type} (part : CommandBuilder → α) (f : α → Setting → α)
    (hset : ∀ {b b' : CommandBuilder} {s : Setting}, s ∈ settings → b.set s = .ok b' → part b' = f (part b) s)
    (h : b.setAll settings = .ok b') : part b' = settings.foldl f (part b) := by
  induction settings generalizing b with
  | nil => cases h; rfl
  | cons s settings ih =>
    obtain ⟨b₁, hb₁, hrest⟩ := setAll_cons_eq_ok_iff.1 h
    rw [List.foldl_cons, ih (fun hs => hset (List.mem_cons_of_mem _ hs)) hrest, hset List.mem_cons_self hb₁]

/-- What is replaced as a whole is in the end what it was replaced by last. -/
theorem foldl_or {α β : Type*} (f : α → Option β) (old : Option β) (l : List α) :
    l.foldl (fun old a => (f a).or old) old = (l.filterMap f).getLast?.or old := by
  induction l generalizing old with
  | nil => rfl
  | cons a l ih =>
    rw [List.foldl_cons, ih, List.filterMap_cons]
    cases f a with
    | none => rfl
    | some x => rw [List.getLast?_cons]; cases (l.filterMap f).getLast? <;> rfl

theorem set_region (h : b.set s = .ok b') : b'.region = s.region?.or b.region := by
  cases s with
  | encodeWord w t values =>
    obtain ⟨bytes, -, rfl⟩ := encodeWord_eq_ok_iff.1 h
    rfl
  | _ => cases h; rfl

theorem set_transferLength (h : b.set s = .ok b') : b'.transferLength = s.transferLength?.or b.transferLength := by
  cases s with
  | encodeWord w t values =>
    obtain ⟨bytes, -, rfl⟩ := encodeWord_eq_ok_iff.1 h
    rfl
  | _ => cases h; rfl

end CommandBuilder

end StorageCommands.Nvme
