import StorageCommands.Nvme.Admin
import StorageCommands.Proofs.Layout.Integers
import StorageCommands.Proofs.Nvme.Registers

/-!
# Reading a Get Log Page command back

`CommandDescriptor.logPageRequest` decodes the dwords of a command with the Get Log Page tables, as a controller does. A
field of a dword is a bit range, and its value a quotient and remainder of the dword (`read_bits_dword`). So every
command can be decoded, and what it says is written out in numbers (`logPageRequest_eq`).
-/

namespace StorageCommands.Nvme

open Bytes Layout

/-! ## Dwords -/

theorem dwordAt_dwordBytes {b : Bytes} (h : b.length = 4) : dwordBytes (dwordAt b 0) = b := by
  rw [dwordBytes_dwordAt (by omega)]
  exact List.take_of_length_le (Nat.le_of_eq h)

/-- The value of a bit range of a dword. -/
theorem read_bits_dword (v : UInt32) (pos width : Nat) :
    (Spec.bits pos width).read (dwordBytes v) = .uint (v.toNat / 2 ^ pos % 2 ^ width) := by
  rw [Spec.read, readBits_eq_div_mod, littleEndian_dwordBytes]

/-! ## Requests -/

/-- What the dwords of a Get Log Page command say. -/
structure LogPageRequest where
  page : Nat
  parameter : Nat
  retainEvent : Nat
  /-- The number of dwords less one. -/
  count : Nat
  identifier : Nat
  offset : Nat
  uuidIndex : Nat
  offsetType : Nat
  commandSet : Nat
  deriving DecidableEq, Repr

/-- Decodes the dwords of a Get Log Page command. -/
def CommandDescriptor.logPageRequest (d : CommandDescriptor) : Except Layout.Error LogPageRequest := do
  let v10 ← getLogPageDword10.decode (dwordBytes d.words.cdw10)
  let v11 ← getLogPageDword11.decode (dwordBytes d.words.cdw11)
  let v12 ← getLogPageDword12.decode (dwordBytes d.words.cdw12)
  let v13 ← getLogPageDword13.decode (dwordBytes d.words.cdw13)
  let v14 ← getLogPageDword14.decode (dwordBytes d.words.cdw14)
  return {
    page := v10.uint .lid
    parameter := v10.uint .lsp
    retainEvent := v10.uint .rae
    count := v10.uint .numdl + v11.uint .numdu * 2 ^ 16
    identifier := v11.uint .lsi
    offset := v12.uint .lpol + v13.uint .lpou * 2 ^ 32
    uuidIndex := v14.uint .uuidIndex
    offsetType := v14.uint .ot
    commandSet := v14.uint .csi }

/-- **What the dwords say**, in numbers. -/
theorem CommandDescriptor.logPageRequest_eq (d : CommandDescriptor) : d.logPageRequest = .ok {
    page := d.words.cdw10.toNat % 2 ^ 8
    parameter := d.words.cdw10.toNat / 2 ^ 8 % 2 ^ 7
    retainEvent := d.words.cdw10.toNat / 2 ^ 15 % 2
    count := d.words.cdw10.toNat / 2 ^ 16 % 2 ^ 16 + d.words.cdw11.toNat % 2 ^ 16 * 2 ^ 16
    identifier := d.words.cdw11.toNat / 2 ^ 16 % 2 ^ 16
    offset := d.words.cdw12.toNat + d.words.cdw13.toNat * 2 ^ 32
    uuidIndex := d.words.cdw14.toNat % 2 ^ 7
    offsetType := d.words.cdw14.toNat / 2 ^ 23 % 2
    commandSet := d.words.cdw14.toNat / 2 ^ 24 % 2 ^ 8 } := by
  have hdecode (t : Table GetLogPageField) (v : UInt32) (ht : t.minLength ≤ 4) :=
    Table.decode_eq_ok (t := t) (b := dwordBytes v) ht
  rw [logPageRequest, hdecode getLogPageDword10 _ (by decide), hdecode getLogPageDword11 _ (by decide),
    hdecode getLogPageDword12 _ (by decide), hdecode getLogPageDword13 _ (by decide),
    hdecode getLogPageDword14 _ (by decide)]
  simp only [getLogPageDword10, getLogPageDword11, getLogPageDword12, getLogPageDword13, getLogPageDword14,
    List.map_cons, List.map_nil, read_bits_dword, bind, Except.bind, pure, Except.pure, Except.ok.injEq,
    LogPageRequest.mk.injEq]
  simp [Values.uint, Values.uint?, Values.get?, Value.uint?]

end StorageCommands.Nvme
