import StorageCommands.Nvme.Transport

/-!
# What a transport can do to a command

Whatever a transport does, a command keeps its transfer: the same length, through a buffer of the same size, of which
only the transfer window changes (`afterAll_transfer`). `issue_cases` says what comes of issuing a command that has not
been executed.
-/

namespace StorageCommands.Nvme

namespace Transfer

theorem length_window_fill (t : Transfer) (new : Bytes) :
    (Bytes.fill t.window new).length = min t.len t.region.buffer.size := by
  rw [Bytes.length_fill, window, List.length_take, DataBuffer.size]

/-- A write keeps the size of the buffer. -/
theorem size_write (t : Transfer) (new : Bytes) : (t.write new).region.buffer.size = t.region.buffer.size := by
  have h := t.length_window_fill new
  simp only [write, DataBuffer.size, List.length_append, List.length_drop] at h ⊢
  omega

/-- A write keeps the bytes after the window. -/
theorem drop_write (t : Transfer) (new : Bytes) :
    (t.write new).region.buffer.bytes.drop t.len = t.region.buffer.bytes.drop t.len := by
  have h := t.length_window_fill new
  rw [DataBuffer.size] at h
  by_cases hl : t.len ≤ t.region.buffer.bytes.length
  · exact List.drop_left' (by omega)
  · rw [List.drop_eq_nil_of_le (by have := t.size_write new; rw [DataBuffer.size, DataBuffer.size] at this; omega),
      List.drop_eq_nil_of_le (by omega)]

/-- Bytes that fill the window are its bytes. -/
theorem window_write {t : Transfer} {new : Bytes} (hl : t.len ≤ t.region.buffer.size) (hn : new.length = t.len) :
    (t.write new).window = new := by
  have hw : t.window.length = t.len := by
    rw [window, List.length_take, ← DataBuffer.size]
    omega
  have hf : Bytes.fill t.window new = new := by
    rw [Bytes.fill, hw, List.take_of_length_le (Nat.le_of_eq hn), List.drop_of_length_le (by omega), List.append_nil]
  have hlen : (t.write new).len = t.len := rfl
  rw [window, hlen, write, hf]
  exact List.take_left' hn

end Transfer

namespace CommandDescriptor

/-- Bytes that fill the transfer window are its bytes. -/
theorem data_writeData {d : CommandDescriptor} {t : Transfer} {new : Bytes} (h : d.transfer = some t)
    (hl : t.len ≤ t.region.buffer.size) (hn : new.length = d.dataLength) : (d.writeData new).data = some new := by
  have hn' : new.length = t.len := by rw [hn, dataLength, h]; rfl
  rw [data, writeData, h, Option.map_some, Option.map_some, Transfer.window_write hl hn']

/-- The transfers that effects can turn one into. -/
structure Keeps (t t' : Transfer) : Prop where
  len : t'.len = t.len
  isLent : t'.region.isLent = t.region.isLent
  size : t'.region.buffer.size = t.region.buffer.size
  rest : t'.region.buffer.bytes.drop t.len = t.region.buffer.bytes.drop t.len

/-- An effect keeps the transfer. -/
theorem after_transfer {d : CommandDescriptor} {t : Transfer} (h : d.transfer = some t) (e : Effect) :
    ∃ t', (d.after e).transfer = some t' ∧ Keeps t t' := by
  cases e with
  | writeData bytes =>
    refine ⟨t.write bytes, ?_, rfl, rfl, t.size_write bytes, t.drop_write bytes⟩
    simp only [after, writeData, h, Option.map_some]
  | writeMetadata bytes => exact ⟨t, h, rfl, rfl, rfl, rfl⟩
  | complete c =>
    refine ⟨t, ?_, rfl, rfl, rfl, rfl⟩
    simp only [after, complete?]
    split
    · exact h
    · exact h

/-- **Effects keep the transfer**: its length, the size of its buffer, and the buffer's bytes after the window. -/
theorem afterAll_transfer {d : CommandDescriptor} {t : Transfer} (h : d.transfer = some t) (effects : List Effect) :
    ∃ t', (d.afterAll effects).transfer = some t' ∧ Keeps t t' := by
  induction effects generalizing d t with
  | nil => exact ⟨t, h, rfl, rfl, rfl, rfl⟩
  | cons e effects ih =>
    obtain ⟨t₁, h₁, k₁⟩ := after_transfer h e
    obtain ⟨t₂, h₂, k₂⟩ := ih h₁
    exact ⟨t₂, h₂, k₂.len.trans k₁.len, k₂.isLent.trans k₁.isLent, k₂.size.trans k₁.size,
      by rw [← k₁.rest, ← k₁.len]; exact k₂.rest⟩

/-- Effects give a command no transfer. -/
theorem afterAll_transfer_none {d : CommandDescriptor} (h : d.transfer = none) (effects : List Effect) :
    (d.afterAll effects).transfer = none := by
  induction effects generalizing d with
  | nil => exact h
  | cons e effects ih =>
    refine ih ?_
    cases e with
    | writeData bytes => rw [after, writeData, h, Option.map_none]
    | writeMetadata bytes => exact h
    | complete c =>
      simp only [after, complete?]
      split
      · exact h
      · exact h

theorem isCompleted_of_some {d : CommandDescriptor} {c : Completion} (h : d.completion = some c) :
    d.isCompleted = true := by
  rw [isCompleted, h]
  rfl

theorem not_isCompleted {d : CommandDescriptor} (h : d.completion = none) : ¬d.isCompleted = true := by
  rw [isCompleted, h]
  exact Bool.false_ne_true

end CommandDescriptor

/-- **Issuing a command** that has not been executed gives it to the transport. If the transport succeeds and records a
completion, its status is the result; otherwise the result is an error. -/
theorem issue_cases {σ : Type} {t : Transport σ} {d d' : CommandDescriptor} {w w' : World σ}
    {result : Except TransportError StatusWord} (hd : d.completion = none) (h : issue t d w = (result, d', w')) :
    ∃ answer w₁, t.execute d (w.note d.issuing) = (answer, w₁) ∧ d' = d.afterAll answer.effects
      ∧ w'.device = w₁.device
      ∧ ((∃ c, answer.result = .ok () ∧ d'.completion = some c ∧ result = .ok c.status)
        ∨ (¬(answer.result = .ok () ∧ d'.completion.isSome = true) ∧ ∃ e, result = .error e)) := by
  rw [issue, if_neg (CommandDescriptor.not_isCompleted hd)] at h
  rcases hx : t.execute d (w.note d.issuing) with ⟨answer, w₁⟩
  rw [hx] at h
  refine ⟨answer, w₁, rfl, ?_⟩
  cases hr : answer.result with
  | error e =>
    simp only [hr] at h
    cases h
    exact ⟨rfl, rfl, Or.inr ⟨fun hc => (by cases hc.1), e, rfl⟩⟩
  | ok u =>
    cases hc : (d.afterAll answer.effects).completion with
    | none =>
      simp only [hr, hc] at h
      cases h
      exact ⟨rfl, rfl, Or.inr ⟨fun hs => (by rw [hc] at hs; cases hs.2), _, rfl⟩⟩
    | some c =>
      simp only [hr, hc] at h
      cases h
      exact ⟨rfl, rfl, Or.inl ⟨c, rfl, hc, rfl⟩⟩

end StorageCommands.Nvme
