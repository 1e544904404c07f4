import StorageCommands.Proofs.EventLog.Stepwise
import StorageCommands.Proofs.Nvme.Completion
import StorageCommands.Proofs.Nvme.Settings

/-!
# The transfer window

The transfer of a command is decided by what was set last: the length, and the buffer that was given
(`CommandBuilder.transfer_eq`). From then on the window is what the writes to it make of its bytes, and the rest of the
buffer stays (`CommandDescriptor.confined_afterAll`).

A buffer is kept in whole pages (`PagedBuffer`), and the window is taken of them in two steps. Each step halts if it
does not get what it needs. None does, and the pages after the window stay as well (`PagedBuffer.afterAll_eq`).
-/

namespace StorageCommands.Nvme

open EventLog Layout

/-! ## Windows under writes -/

/-- Filling the start of a string leaves what comes after it. -/
theorem fill_take {b : Bytes} {n : Nat} (h : n ≤ b.length) (new : Bytes) :
    Bytes.fill b (new.take n) = Bytes.fill (b.take n) new ++ b.drop n := by
  have hstart : (new.take n).take b.length = new.take n :=
    List.take_of_length_le (Nat.le_trans (List.length_take_le ..) h)
  have hrest : b.drop (new.take n).length = (b.take n).drop new.length ++ b.drop n := by
    rw [List.length_take]
    by_cases hle : new.length ≤ n
    · have hsplit : (b.take n ++ b.drop n).drop new.length = (b.take n).drop new.length ++ b.drop n :=
        List.drop_append_of_le_length (by rw [List.length_take]; omega)
      rw [List.take_append_drop] at hsplit
      rw [Nat.min_eq_right hle, hsplit]
    · have hempty : (b.take n).drop new.length = [] := List.drop_eq_nil_of_le (by rw [List.length_take]; omega)
      rw [Nat.min_eq_left (by omega), hempty, List.nil_append]
  rw [Bytes.fill, Bytes.fill, hstart, hrest, List.length_take_of_le h, List.append_assoc]

/-- The window after an effect. -/
def Effect.fill (window : Bytes) : Effect → Bytes
  | .writeData new => Bytes.fill window new
  | .writeMetadata _ | .complete _ => window

@[simp] theorem Effect.length_fill (window : Bytes) (e : Effect) : (e.fill window).length = window.length := by
  cases e with
  | writeData new => exact Bytes.length_fill window new
  | writeMetadata _ | complete _ => rfl

theorem Effect.length_foldl_fill (window : Bytes) (effects : List Effect) :
    (effects.foldl fill window).length = window.length := by
  induction effects generalizing window with
  | nil => rfl
  | cons e effects ih => rw [List.foldl_cons, ih, length_fill]

theorem Transfer.length_window {t : Transfer} (h : t.len ≤ t.region.buffer.size) : t.window.length = t.len := by
  rw [window, List.length_take, ← DataBuffer.size]
  exact Nat.min_eq_left h

namespace CommandDescriptor

/-- The command moves `n` bytes, those of a window, through a region whose other bytes are as they were given. -/
structure Confined (d : CommandDescriptor) (r : Region) (n : Nat) (window : Bytes) : Prop where
  dataLength : d.dataLength = n
  data : d.data = some window
  length : window.length = n
  lentBuffer : d.lentBuffer = if r.isLent then some ⟨window ++ r.buffer.bytes.drop n⟩ else none
  ownedBuffer : d.ownedBuffer = if r.isLent then none else some ⟨window ++ r.buffer.bytes.drop n⟩

/-- The command moves no data. -/
structure Dataless (d : CommandDescriptor) : Prop where
  dataLength : d.dataLength = 0
  data : d.data = none
  lentBuffer : d.lentBuffer = none
  ownedBuffer : d.ownedBuffer = none

variable {d : CommandDescriptor} {t : Transfer}

theorem dataless_of_transfer (h : d.transfer = none) : d.Dataless := by
  constructor <;> simp [dataLength, data, lentBuffer, ownedBuffer, h]

/-- One effect fills the window. -/
theorem data_after (h : d.transfer = some t) (hl : t.len ≤ t.region.buffer.size) (e : Effect) :
    (d.after e).data = some (e.fill t.window) := by
  cases e with
  | writeData new =>
    have hwindow : (t.write new).window = Bytes.fill t.window new :=
      List.take_left' ((Bytes.length_fill ..).trans (Transfer.length_window hl))
    rw [after, data, writeData, h, Option.map_some, Option.map_some, hwindow]
    rfl
  | writeMetadata new => rw [after, data, writeMetadata, h]; rfl
  | complete c =>
    have hsame : (d.after (.complete c)).transfer = d.transfer := by
      simp only [after, complete?]
      split <;> rfl
    rw [data, hsame, h]
    rfl

theorem data_afterAll (h : d.transfer = some t) (hl : t.len ≤ t.region.buffer.size) (effects : List Effect) :
    (d.afterAll effects).data = some (effects.foldl Effect.fill t.window) := by
  induction effects generalizing d t with
  | nil => rw [afterAll, List.foldl_nil, data, h]; rfl
  | cons e effects ih =>
    obtain ⟨t₁, h₁, hkeeps⟩ := after_transfer h e
    have hwindow := data_after h hl e
    rw [data, h₁, Option.map_some, Option.some_inj] at hwindow
    have hl₁ : t₁.len ≤ t₁.region.buffer.size := by rw [hkeeps.len, hkeeps.size]; exact hl
    rw [List.foldl_cons, ← hwindow]
    exact ih h₁ hl₁

/-- **Whatever is done to a command** stays in its transfer window. -/
theorem confined_afterAll (h : d.transfer = some t) (hl : t.len ≤ t.region.buffer.size) (effects : List Effect) :
    (d.afterAll effects).Confined t.region t.len (effects.foldl Effect.fill t.window) := by
  obtain ⟨t', h', hkeeps⟩ := afterAll_transfer h effects
  have hdata := data_afterAll h hl effects
  have hwindow : t'.window = effects.foldl Effect.fill t.window := by
    rw [data, h', Option.map_some, Option.some_inj] at hdata
    exact hdata
  have hbuffer : t'.region.buffer = ⟨effects.foldl Effect.fill t.window ++ t.region.buffer.bytes.drop t.len⟩ := by
    rw [← hwindow, ← hkeeps.rest, Transfer.window, hkeeps.len, List.take_append_drop]
  constructor
  · rw [dataLength, h', Option.elim_some, hkeeps.len]
  · exact hdata
  · rw [Effect.length_foldl_fill, Transfer.length_window hl]
  · rw [lentBuffer, h', Option.bind_some, hkeeps.isLent, hbuffer]
  · rw [ownedBuffer, h', Option.bind_some, hkeeps.isLent, hbuffer]

end CommandDescriptor

/-! ## Buffers in pages -/

/-- A buffer as it is kept: whole pages, of which the first bytes are the buffer. -/
structure PagedBuffer where
  storage : Bytes
  len : Nat
  /-- There are as many pages as it takes. -/
  length_storage : storage.length = DataBuffer.pageSize * ((len + DataBuffer.pageSize - 1) / DataBuffer.pageSize)

namespace PagedBuffer

abbrev Work (α : Type) := Stepwise.Work Empty α

/-- The bytes of the buffer. -/
def view (p : PagedBuffer) : DataBuffer := ⟨p.storage.take p.len⟩

/-- Fresh pages for a buffer of some length. There is always memory for them, as for `DataBuffer.zeroed`. -/
def zeroed (len : Nat) : PagedBuffer := ⟨Bytes.zeros _, len, Bytes.length_zeros _⟩

/-- Puts bytes over the first bytes of the pages. -/
def fill (p : PagedBuffer) (new : Bytes) : PagedBuffer :=
  ⟨Bytes.fill p.storage new, p.len, (Bytes.length_fill ..).trans p.length_storage⟩

/-- Takes the bytes of the buffer. -/
def bytes (p : PagedBuffer) : Work Bytes := Stepwise.range p.storage 0 p.len

/-- A buffer that holds a copy of a byte string. -/
def ofBytes (b : Bytes) : Work PagedBuffer := do
  let p := zeroed b.length
  let new ← Stepwise.copy (← p.bytes) b
  return p.fill new

/-- Takes the first `n` bytes of the buffer. -/
def window (p : PagedBuffer) (n : Nat) : Work Bytes := do Stepwise.range (← p.bytes) 0 n

/-- Does to the first `n` bytes of the buffer what an effect does to the window. -/
def after (n : Nat) (p : PagedBuffer) (e : Effect) : Work PagedBuffer := do
  match e with
  | .writeData new => do
    let window ← p.window n
    return p.fill (new.take window.length)
  | .writeMetadata _ | .complete _ => return p

def afterAll (p : PagedBuffer) (n : Nat) (effects : List Effect) : Work PagedBuffer := effects.foldlM (after n) p

variable {p : PagedBuffer} {n : Nat}

@[simp] theorem storage_fill (p : PagedBuffer) (new : Bytes) : (p.fill new).storage = Bytes.fill p.storage new := rfl

theorem len_le (p : PagedBuffer) : p.len ≤ p.storage.length := by
  have h := p.length_storage
  simp only [DataBuffer.pageSize] at h
  omega

theorem bytes_eq (p : PagedBuffer) : p.bytes = .ok p.view.bytes := by
  rw [bytes, Stepwise.range_eq (Nat.zero_le _) p.len_le]
  rfl

theorem size_view (p : PagedBuffer) : p.view.size = p.len := by
  rw [DataBuffer.size, view, List.length_take]
  exact Nat.min_eq_left p.len_le

/-- Fresh pages hold zeros. -/
theorem view_zeroed (len : Nat) : (zeroed len).view = .zeroed len := by
  have h := (zeroed len).len_le
  rw [zeroed, Bytes.length_zeros] at h
  simp only [view, zeroed, DataBuffer.zeroed, Bytes.zeros, List.take_replicate, Nat.min_eq_left h]

/-- A byte string is copied into pages of its own. -/
theorem ofBytes_eq (b : Bytes) : ∃ p, ofBytes b = .ok p ∧ p.view = ⟨b⟩ := by
  have hview : b.length = (zeroed b.length).view.bytes.length := by rw [view_zeroed]; exact (Bytes.length_zeros _).symm
  have hle : b.length ≤ (zeroed b.length).storage.length := (zeroed b.length).len_le
  refine ⟨(zeroed b.length).fill b, ?_, ?_⟩
  · rw [ofBytes, bytes_eq, Stepwise.bind_ok _ rfl, Stepwise.bind_ok _ (Stepwise.copy_eq hview)]
    rfl
  · rw [view, storage_fill, Bytes.fill, List.take_of_length_le hle]
    exact congrArg DataBuffer.mk List.take_left

theorem take_view (h : n ≤ p.len) : p.view.bytes.take n = p.storage.take n := by
  rw [view, List.take_take, Nat.min_eq_left h]

/-- A window of the buffer is one of the pages. -/
theorem window_eq (h : n ≤ p.len) : p.window n = .ok (p.storage.take n) := by
  have hn : n ≤ p.view.bytes.length := by rw [← DataBuffer.size, size_view]; exact h
  rw [window, bytes_eq, ← take_view h]
  exact Stepwise.range_eq (Nat.zero_le _) hn

/-- **One effect** does not halt, and changes no byte after the window. -/
theorem after_eq (h : n ≤ p.len) (e : Effect) : ∃ p', p.after n e = .ok p' ∧ p'.len = p.len
    ∧ p'.storage.take n = e.fill (p.storage.take n) ∧ p'.storage.drop n = p.storage.drop n := by
  cases e with
  | writeData new =>
    have hle : n ≤ p.storage.length := Nat.le_trans h p.len_le
    have hwindow : (Bytes.fill (p.storage.take n) new).length = n := by
      rw [Bytes.length_fill, List.length_take_of_le hle]
    refine ⟨p.fill (new.take n), ?_, rfl, ?_, ?_⟩
    · rw [after, window_eq h]
      change Except.ok (p.fill (new.take (p.storage.take n).length)) = _
      rw [List.length_take_of_le hle]
    · rw [storage_fill, fill_take hle, List.take_left' hwindow]
      rfl
    · rw [storage_fill, fill_take hle, List.drop_left' hwindow]
  | writeMetadata _ | complete _ => exact ⟨p, rfl, rfl, rfl, rfl⟩

/-- **All effects**: the window is what they make of it, and what comes after it stays, in the buffer and in its
pages. -/
theorem afterAll_eq (h : n ≤ p.len) (effects : List Effect) : ∃ p', p.afterAll n effects = .ok p' ∧ p'.len = p.len
    ∧ p'.storage.take n = effects.foldl Effect.fill (p.storage.take n) ∧ p'.storage.drop n = p.storage.drop n := by
  induction effects generalizing p with
  | nil => exact ⟨p, rfl, rfl, rfl, rfl⟩
  | cons e effects ih =>
    obtain ⟨p₁, hp₁, hlen, htake, hdrop⟩ := after_eq h e
    obtain ⟨p', hp', hlen', htake', hdrop'⟩ := ih (p := p₁) (by rw [hlen]; exact h)
    refine ⟨p', ?_, hlen'.trans hlen, ?_, hdrop'.trans hdrop⟩
    · rw [afterAll, List.foldlM_cons, hp₁]
      exact hp'
    · rw [htake', htake, List.foldl_cons]

/-- The pages after effects: no step halts, the window is what the effects make of it, and what comes after it stays, in
the buffer and in its pages. -/
structure Follows (p : PagedBuffer) (n : Nat) (effects : List Effect) (p' : PagedBuffer) : Prop where
  run : p.afterAll n effects = .ok p'
  window : p'.window n = .ok (effects.foldl Effect.fill (p.view.bytes.take n))
  view : p'.view = ⟨effects.foldl Effect.fill (p.view.bytes.take n) ++ p.view.bytes.drop n⟩
  rest : p'.storage.drop n = p.storage.drop n

theorem exists_follows (h : n ≤ p.len) (effects : List Effect) : ∃ p', p.Follows n effects p' := by
  obtain ⟨p', hrun, hlen, htake, hdrop⟩ := afterAll_eq h effects
  have h' : n ≤ p'.len := by rw [hlen]; exact h
  have hwindow : p'.view.bytes.take n = effects.foldl Effect.fill (p.view.bytes.take n) := by
    rw [take_view h', take_view h, htake]
  have hrest : p'.view.bytes.drop n = p.view.bytes.drop n := by
    rw [view, view, List.drop_take, List.drop_take, hdrop, hlen]
  refine ⟨p', hrun, ?_, ?_, hdrop⟩
  · rw [window_eq h', ← take_view h', hwindow]
  · rw [← hwindow, ← hrest, List.take_append_drop]

end PagedBuffer

/-! ## What was set last -/

/-- The region that was set last. -/
def lastRegion (settings : List Setting) : Option Region := (settings.filterMap Setting.region?).getLast?

/-- The transfer length that was set last. -/
def lastLength (settings : List Setting) : Option Nat := (settings.filterMap Setting.transferLength?).getLast?

/-- The number of bytes to transfer: the length that was set last, and without one the size of the buffer that was given
last. -/
def effectiveLength (settings : List Setting) : Option Nat :=
  (lastLength settings).or ((lastRegion settings).map (·.buffer.size))

/-- The region that bytes are moved through: the one that was set last, and without one a fresh one of zeros. -/
def effectiveRegion (settings : List Setting) (n : Nat) : Region := (lastRegion settings).getD ⟨.zeroed n, false⟩

/-- A window of `n` bytes is valid: the number is a positive multiple of 4, and the buffer that was given is long
enough. -/
structure ValidWindow (settings : List Setting) (n : Nat) : Prop where
  positive : n ≠ 0
  aligned : n % 4 = 0
  fits : ∀ r ∈ lastRegion settings, n ≤ r.buffer.size

/-- What is wrong with a window of `n` bytes. The number is looked at before the buffer. -/
inductive WindowFault (settings : List Setting) (n : Nat) : BuildError → Prop
  | unaligned (hn : n = 0 ∨ n % 4 ≠ 0) : WindowFault settings n (.unalignedTransfer n)
  | tooShort {r : Region} (hpos : n ≠ 0) (haligned : n % 4 = 0) (hr : r ∈ lastRegion settings)
      (hshort : r.buffer.size < n) : WindowFault settings n (.bufferTooShort n r.buffer.size)

variable {settings : List Setting} {n : Nat}

theorem effectiveLength_eq_none_iff :
    effectiveLength settings = none ↔ lastRegion settings = none ∧ lastLength settings = none := by
  rw [effectiveLength, Option.or_eq_none_iff, Option.map_eq_none_iff, and_comm]

theorem effectiveRegion_of_mem {r : Region} (hr : r ∈ lastRegion settings) : effectiveRegion settings n = r := by
  rw [effectiveRegion, hr, Option.getD_some]

/-- A fresh region is always long enough. -/
theorem ValidWindow.le_size (h : ValidWindow settings n) : n ≤ (effectiveRegion settings n).buffer.size := by
  cases hr : lastRegion settings with
  | none =>
    rw [effectiveRegion, hr, Option.getD_none, DataBuffer.size, DataBuffer.zeroed, Bytes.length_zeros]
  | some r =>
    rw [effectiveRegion_of_mem hr]
    exact h.fits r hr

/-- A window that is not valid has something wrong with it. -/
theorem valid_or_exists_fault (settings : List Setting) (n : Nat) :
    ValidWindow settings n ∨ ∃ e, WindowFault settings n e := by
  by_cases ha : n = 0 ∨ n % 4 ≠ 0
  · exact .inr ⟨_, .unaligned ha⟩
  · have hpos : n ≠ 0 := fun h => ha (.inl h)
    have haligned : n % 4 = 0 := not_not.1 fun h => ha (.inr h)
    by_cases hfits : ∀ r ∈ lastRegion settings, n ≤ r.buffer.size
    · exact .inl ⟨hpos, haligned, hfits⟩
    · push Not at hfits
      obtain ⟨r, hr, hshort⟩ := hfits
      exact .inr ⟨_, .tooShort hpos haligned hr hshort⟩

namespace CommandBuilder

variable {op : Opcode} {b b' : CommandBuilder} {d : CommandDescriptor}

theorem setAll_region (h : b.setAll settings = .ok b') : b'.region = (lastRegion settings).or b.region := by
  rw [setAll_part (·.region) (fun old s => s.region?.or old) (fun _ => set_region) h, foldl_or]
  rfl

theorem setAll_transferLength (h : b.setAll settings = .ok b') :
    b'.transferLength = (lastLength settings).or b.transferLength := by
  rw [setAll_part (·.transferLength) (fun old s => s.transferLength?.or old) (fun _ => set_transferLength) h, foldl_or]
  rfl

/-- **The transfer** of a command, by the number of its bytes. The length is checked before the buffer. -/
theorem transfer_eq (hb : CommandBuilder.setAll { opcode := op } settings = .ok b) :
    b.transfer = match effectiveLength settings with
      | none => .ok none
      | some n =>
        let r := effectiveRegion settings n
        if n = 0 ∨ n % 4 ≠ 0 then .error (.unalignedTransfer n)
        else if r.buffer.size < n then .error (.bufferTooShort n r.buffer.size)
        else .ok (some ⟨r, n⟩) := by
  have hregion : b.region = lastRegion settings := (setAll_region hb).trans Option.or_none
  have hlength : b.transferLength = lastLength settings := (setAll_transferLength hb).trans Option.or_none
  rw [transfer, hregion, hlength, effectiveLength]
  cases hr : lastRegion settings with
  | none =>
    cases lastLength settings with
    | none => rfl
    | some n =>
      have hsize : ¬(DataBuffer.zeroed n).size < n := by simp [DataBuffer.size, DataBuffer.zeroed]
      by_cases ha : n = 0 ∨ n % 4 ≠ 0
      · simp [checkAlignment, ha, bind, Except.bind]
      · simp [checkAlignment, ha, effectiveRegion, hr, hsize, bind, Except.bind, pure, Except.pure]
  | some r =>
    obtain ⟨n, hn⟩ : ∃ n, (lastLength settings).getD r.buffer.size = n := ⟨_, rfl⟩
    have hor : (lastLength settings).or (some r.buffer.size) = some n := by rw [← hn]; cases lastLength settings <;> rfl
    rw [Option.map_some, hor]
    by_cases ha : n = 0 ∨ n % 4 ≠ 0
    · simp [checkAlignment, hn, ha, bind, Except.bind]
    · by_cases hs : r.buffer.size < n
      · simp [checkAlignment, hn, ha, effectiveRegion, hr, hs, bind, Except.bind, throw, throwThe, MonadExceptOf.throw]
      · simp [checkAlignment, hn, ha, effectiveRegion, hr, hs, bind, Except.bind, pure, Except.pure]

theorem transfer_of_none (hb : CommandBuilder.setAll { opcode := op } settings = .ok b)
    (hn : effectiveLength settings = none) : b.transfer = .ok none := by
  rw [transfer_eq hb, hn]

theorem transfer_of_valid (hb : CommandBuilder.setAll { opcode := op } settings = .ok b)
    (hn : effectiveLength settings = some n) (h : ValidWindow settings n) :
    b.transfer = .ok (some ⟨effectiveRegion settings n, n⟩) := by
  have ha : ¬(n = 0 ∨ n % 4 ≠ 0) := not_or.2 ⟨h.positive, not_not.2 h.aligned⟩
  rw [transfer_eq hb, hn]
  dsimp only
  rw [if_neg ha, if_neg (Nat.not_lt.2 h.le_size)]

theorem transfer_of_fault {e : BuildError} (hb : CommandBuilder.setAll { opcode := op } settings = .ok b)
    (hn : effectiveLength settings = some n) (h : WindowFault settings n e) : b.transfer = .error e := by
  rw [transfer_eq hb, hn]
  dsimp only
  cases h with
  | unaligned ha => rw [if_pos ha]
  | tooShort hpos haligned hr hshort =>
    rw [effectiveRegion_of_mem hr, if_neg (not_or.2 ⟨hpos, not_not.2 haligned⟩), if_pos hshort]

theorem build_eq_ok_iff : b.build = .ok d ↔
    ∃ t, b.transfer = .ok t ∧ d = { b with transfer := t, completion := none } := by
  rw [build, bind_eq_ok]
  exact exists_congr fun t => and_congr_right fun _ => (Except.ok.injEq ..).to_iff.trans eq_comm

theorem build_eq_error_of_transfer {e : BuildError} (h : b.transfer = .error e) : b.build = .error e := by
  rw [build, h]
  rfl

/-- **When a command is finished.** -/
theorem build_isOk_iff (hb : CommandBuilder.setAll { opcode := op } settings = .ok b) :
    (∃ d, b.build = .ok d) ↔ (lastRegion settings = none ∧ lastLength settings = none)
      ∨ ∃ n, effectiveLength settings = some n ∧ ValidWindow settings n := by
  rw [← effectiveLength_eq_none_iff]
  constructor
  · rintro ⟨d, hd⟩
    cases hn : effectiveLength settings with
    | none => exact .inl rfl
    | some n =>
      rcases valid_or_exists_fault settings n with hvalid | ⟨e, he⟩
      · exact .inr ⟨n, rfl, hvalid⟩
      · cases hd.symm.trans (build_eq_error_of_transfer (transfer_of_fault hb hn he))
  · rintro (hn | ⟨n, hn, hvalid⟩)
    · exact ⟨_, build_eq_ok_iff.2 ⟨_, transfer_of_none hb hn, rfl⟩⟩
    · exact ⟨_, build_eq_ok_iff.2 ⟨_, transfer_of_valid hb hn hvalid, rfl⟩⟩

/-- **Why a command is not finished.** -/
theorem build_eq_error_iff (hb : CommandBuilder.setAll { opcode := op } settings = .ok b) {e : BuildError} :
    b.build = .error e ↔ ∃ n, effectiveLength settings = some n ∧ WindowFault settings n e := by
  constructor
  · intro he
    cases hn : effectiveLength settings with
    | none => cases he.symm.trans (build_eq_ok_iff.2 ⟨_, transfer_of_none hb hn, rfl⟩)
    | some n =>
      rcases valid_or_exists_fault settings n with hvalid | ⟨e', he'⟩
      · cases he.symm.trans (build_eq_ok_iff.2 ⟨_, transfer_of_valid hb hn hvalid, rfl⟩)
      · cases he.symm.trans (build_eq_error_of_transfer (transfer_of_fault hb hn he'))
        exact ⟨n, rfl, he'⟩
  · rintro ⟨n, hn, he⟩
    exact build_eq_error_of_transfer (transfer_of_fault hb hn he)

/-- A finished command moves bytes through the region that was set last. -/
theorem transfer_of_build (hb : CommandBuilder.setAll { opcode := op } settings = .ok b) (hd : b.build = .ok d) :
    (effectiveLength settings = none → d.transfer = none)
      ∧ ∀ n, effectiveLength settings = some n →
        n ≤ (effectiveRegion settings n).buffer.size ∧ d.transfer = some ⟨effectiveRegion settings n, n⟩ := by
  obtain ⟨t, ht, rfl⟩ := build_eq_ok_iff.1 hd
  refine ⟨fun hn => Except.ok.inj (ht.symm.trans (transfer_of_none hb hn)), fun n hn => ?_⟩
  rcases valid_or_exists_fault settings n with hvalid | ⟨e, he⟩
  · exact ⟨hvalid.le_size, Except.ok.inj (ht.symm.trans (transfer_of_valid hb hn hvalid))⟩
  · cases ht.symm.trans (transfer_of_fault hb hn he)

end CommandBuilder

/-- **The transfer window is valid and confined**, whatever is set of a command and in which order.

A command is finished if neither a length nor a buffer was set, or if the window is valid. If not, a length that is no
positive multiple of 4 is reported first.

A finished command moves the first bytes of the buffer that was given last, or of a fresh one of zeros. Whatever is done
to it, they are what the writes to the window make of them, and the rest of the buffer is as it was given. This is what
the lender has, or else the owner. In the pages of the buffer none of it goes past an end, and the pages after the
window stay too. -/
theorem transfer_confined {op : Opcode} {settings : List Setting} {b : CommandBuilder}
    (hb : CommandBuilder.setAll { opcode := op } settings = .ok b) :
    ((∃ d, b.build = .ok d) ↔ (lastRegion settings = none ∧ lastLength settings = none)
        ∨ ∃ n, effectiveLength settings = some n ∧ ValidWindow settings n)
      ∧ (∀ e, b.build = .error e ↔ ∃ n, effectiveLength settings = some n ∧ WindowFault settings n e)
      ∧ ∀ d, b.build = .ok d → ∀ uses : List Use,
          (effectiveLength settings = none → (Uses.outcome uses d).Dataless)
            ∧ ∀ n, effectiveLength settings = some n →
              let r := effectiveRegion settings n
              let effects := Uses.effects uses d
              (Uses.outcome uses d).Confined r n (effects.foldl Effect.fill (r.buffer.bytes.take n))
                ∧ ∀ p : PagedBuffer, p.view = r.buffer → ∃ p', p.Follows n effects p' := by
  refine ⟨CommandBuilder.build_isOk_iff hb, fun e => CommandBuilder.build_eq_error_iff hb, fun d hd uses => ?_⟩
  obtain ⟨hnone, hsome⟩ := CommandBuilder.transfer_of_build hb hd
  rw [Uses.outcome_eq]
  constructor
  · intro hn
    exact CommandDescriptor.dataless_of_transfer (CommandDescriptor.afterAll_transfer_none (hnone hn) _)
  · intro n hn r effects
    obtain ⟨hle, ht⟩ := hsome n hn
    refine ⟨CommandDescriptor.confined_afterAll ht hle effects, fun p hp => PagedBuffer.exists_follows ?_ effects⟩
    rw [← PagedBuffer.size_view, hp]
    exact hle

/-- A buffer is replaced by one that is lent, of which four bytes are moved. More is written to them than fits, and
something again after the command was executed. The lender has its last two bytes as they were. -/
theorem transfer_confined_lent : (let lent : DataBuffer := ⟨[1, 2, 3, 4, 5, 6]⟩
    let settings : List Setting := [.ownedBuffer ⟨[7]⟩, .transferLength 8, .lentBuffer lent, .transferLength 4]
    let uses : List Use :=
      [.touch (.writeData [8, 8, 8, 8, 8, 8]), .touch (.complete ⟨⟨0⟩, 0⟩), .touch (.writeData [9])]
    ∃ b d, CommandBuilder.setAll { opcode := .io 2 } settings = .ok b ∧ b.build = .ok d
      ∧ (Uses.outcome uses d).data = some [9, 8, 8, 8]
      ∧ (Uses.outcome uses d).lentBuffer = some ⟨[9, 8, 8, 8, 5, 6]⟩
      ∧ (Uses.outcome uses d).ownedBuffer = none
      ∧ ∃ p p', PagedBuffer.ofBytes lent.bytes = .ok p ∧ p.afterAll 4 (Uses.effects uses d) = .ok p'
        ∧ p'.view = ⟨[9, 8, 8, 8, 5, 6]⟩) := by
  intro lent settings uses
  have hb : CommandBuilder.setAll { opcode := .io 2 } settings
      = .ok { opcode := .io 2, transferLength := some 4, region := some ⟨lent, true⟩ } := rfl
  obtain ⟨hok, -, hbuilt⟩ := transfer_confined hb
  obtain ⟨d, hd⟩ := hok.2 (.inr ⟨4, rfl, ⟨by decide, by decide, by decide⟩⟩)
  obtain ⟨hconfined, hpages⟩ := (hbuilt d hd uses).2 4 rfl
  obtain ⟨p, hp, hview⟩ := PagedBuffer.ofBytes_eq lent.bytes
  obtain ⟨p', hp'⟩ := hpages p hview
  refine ⟨_, d, hb, hd, hconfined.data, hconfined.lentBuffer, hconfined.ownedBuffer, p, p', hp, hp'.run, ?_⟩
  rw [hp'.view, hview]
  rfl

end StorageCommands.Nvme
