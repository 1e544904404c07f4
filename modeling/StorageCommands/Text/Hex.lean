import StorageCommands.Bytes
import StorageCommands.Text.Number

/-!
# Byte strings in base 16

A byte string is written with two lower-case digits a byte. Reading takes digits of either case.
-/

namespace StorageCommands.Hex

/-- The value of a digit. -/
def digit? (c : Char) : Option Nat :=
  let c := c.toLower
  if c.isDigit then some (c.toNat - '0'.toNat)
  else if 'a' ≤ c ∧ c ≤ 'f' then some (c.toNat - 'a'.toNat + 10)
  else none

/-- The bytes that pairs of digits stand for, put behind the bytes read before, which come latest first. -/
def decodeOnto (before : Bytes) : List Char → Option Bytes
  | [] => some before.reverse
  | a :: b :: rest => do decodeOnto (UInt8.ofNat (16 * (← digit? a) + (← digit? b)) :: before) rest
  | [_] => none

/-- The byte string that a text stands for. -/
def decode? (text : String) : Option Bytes := decodeOnto [] text.toList

def encode (b : Bytes) : String := String.ofList (b.flatMap fun x => Number.hexDigits 2 x.toNat)

end StorageCommands.Hex
