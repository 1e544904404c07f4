import StorageCommands.Proofs.Layout.Decoding
import StorageCommands.Proofs.Layout.WrittenBits

/-!
# Bit ranges as windows

A bit range is read and written bit by bit, at any alignment. Seen as a whole, the buffer is one little-endian integer
`n`, and the range is the window `n / 2 ^ offset % 2 ^ width` of it: reading gives the window, and writing takes it out
and puts the new one in its place (`littleEndian_replace`). `bits_window` says so of decoding and encoding.
-/

namespace StorageCommands.Layout

open Bytes

/-- The integer of a buffer in which a bit range was replaced. -/
theorem littleEndian_replace {b : Bytes} {offset width v : Nat} (h : offset + width ≤ 8 * b.length)
    (hv : v < 2 ^ width) :
    (b.writeBits offset width v).littleEndian =
      b.littleEndian - b.littleEndian / 2 ^ offset % 2 ^ width * 2 ^ offset + v * 2 ^ offset := by
  have hold := below_add_window b.littleEndian offset width
  have hnew := littleEndian_writeBits h hv
  rw [Nat.mul_add, Nat.mul_comm] at hold hnew
  omega

namespace Table

variable {ι : Type} [DecidableEq ι] [Named ι]

/-- **A bit range is a window of one integer**, the little-endian one of the buffer, whatever the length of the buffer
and wherever the range lies in it. Decoding gives the window. Encoding an integer that fits puts it in the window's
place, and the buffer keeps its length. The loops over the bits do the same, without a halt. -/
theorem bits_window (t : Table ι) (id : ι) (s : Spec) (offset width : Nat) (b : Bytes) (hs : t.spec? id = some s)
    (hbuilt : Spec.bitRange offset width = .ok s) (h : offset + width ≤ 8 * b.length) :
    t.decodeOne id b = .ok (some (.uint (b.littleEndian / 2 ^ offset % 2 ^ width)))
      ∧ InPlace.Runs (InPlace.load s) b (.uint (b.littleEndian / 2 ^ offset % 2 ^ width)) b
      ∧ ∀ v < 2 ^ width, ∃ c, t.encode ⟨[(id, .uint v)]⟩ b = .ok c
        ∧ InPlace.Runs (InPlace.store s (.uint v)) b () c ∧ c.length = b.length
        ∧ c.littleEndian = b.littleEndian - b.littleEndian / 2 ^ offset % 2 ^ width * 2 ^ offset + v * 2 ^ offset := by
  unfold Spec.bitRange at hbuilt
  split at hbuilt
  · rename_i hwidth
    cases hbuilt
    have hstop : (Spec.bits offset width).stop ≤ b.length := by
      simp only [Spec.stop]
      omega
    rw [← readBits_eq_div_mod]
    refine ⟨(decodeOne_eq_ok_iff hs).2 ⟨hstop, rfl⟩, (InPlace.runs_takeBits h hwidth.2).bind rfl, fun v hv => ?_⟩
    have hcheck : (Spec.bits offset width).check (Named.name id) (.uint v) b.length = .ok () := by
      refine Spec.check_eq_ok_iff.2 ⟨hstop, rfl, fun n hn max hmax => ?_⟩
      cases hn
      cases hmax
      exact Spec.le_widthMax_of_lt hv
    refine ⟨_, encode_singleton hs hcheck, InPlace.runs_putBits v h hwidth.2, length_writeBits .., ?_⟩
    rw [readBits_eq_div_mod]
    exact littleEndian_replace h hv
  · cases hbuilt

/-- A bit range of 64 bits that touches nine bytes. -/
def straddlingTable : Table String := ⟨[("flag", .bits 1 1), ("window", .bits 13 64)]⟩

/-- All ones, of which the window is replaced. -/
theorem bits_window_straddling : (let b : Bytes := List.replicate 10 0xFF
    straddlingTable.decodeOne "window" b = .ok (some (.uint 0xFFFFFFFFFFFFFFFF))
      ∧ ∃ c, straddlingTable.encode ⟨[("window", .uint 0x8000000000000001)]⟩ b = .ok c
        ∧ c.littleEndian = 2 ^ 80 - 1 - 0xFFFFFFFFFFFFFFFF * 2 ^ 13 + 0x8000000000000001 * 2 ^ 13) := by
  intro b
  obtain ⟨hread, -, hwrite⟩ := bits_window straddlingTable "window" (.bits 13 64) 13 64 b rfl rfl (by decide)
  obtain ⟨c, hc, -, -, hvalue⟩ := hwrite 0x8000000000000001 (by decide)
  have hall : b.littleEndian = 2 ^ 80 - 1 := by decide
  rw [hall] at hread hvalue
  exact ⟨hread, c, hc, hvalue⟩

end Table

end StorageCommands.Layout
