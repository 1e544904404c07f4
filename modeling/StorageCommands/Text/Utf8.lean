import StorageCommands.Bytes

/-!
# UTF-8

`encode` writes a text in UTF-8. `decode` reads any byte string: each longest run of bytes that begins a character
and cannot be completed, and each byte that begins none, reads as one replacement character.
-/

namespace StorageCommands.Utf8

/-- The UTF-8 form of a text. -/
def encode (s : String) : Bytes := s.toList.flatMap String.utf8EncodeChar

/-- What stands for bytes that are no character. -/
def replacement : Char := '\ufffd'

/-- How far the reading of a character has come. -/
inductive Partial
  /-- Between two characters. -/
  | none
  /-- Inside a character: the bits read so far, the range of the next byte, and how many bytes follow that one. -/
  | inside (bits low high more : Nat)
  deriving DecidableEq, Repr

/-- The characters finished by a byte that does not continue one, and what it begins. -/
def begin (b : UInt8) : List Char × Partial :=
  let n := b.toNat
  if n < 0x80 then ([Char.ofNat n], .none)
  else if n < 0xc2 then ([replacement], .none)
  else if n < 0xe0 then ([], .inside (n - 0xc0) 0x80 0xbf 0)
  else if n = 0xe0 then ([], .inside 0x0 0xa0 0xbf 1)
  else if n = 0xed then ([], .inside 0xd 0x80 0x9f 1)
  else if n < 0xf0 then ([], .inside (n - 0xe0) 0x80 0xbf 1)
  else if n = 0xf0 then ([], .inside 0x0 0x90 0xbf 2)
  else if n < 0xf4 then ([], .inside (n - 0xf0) 0x80 0xbf 2)
  else if n = 0xf4 then ([], .inside 0x4 0x80 0x8f 2)
  else ([replacement], .none)

/-- The characters finished by the next byte, and what is then begun. -/
def advance : Partial → UInt8 → List Char × Partial
  | .none, b => begin b
  | .inside bits low high more, b =>
    if low ≤ b.toNat ∧ b.toNat ≤ high then
      let bits := 64 * bits + (b.toNat - 0x80)
      match more with
      | 0 => ([Char.ofNat bits], .none)
      | more + 1 => ([], .inside bits 0x80 0xbf more)
    else
      let (chars, rest) := begin b
      (replacement :: chars, rest)

/-- Reads the bytes that follow a partly read character. -/
def decodeFrom : Partial → Bytes → List Char
  | .none, [] => []
  | .inside .., [] => [replacement]
  | p, b :: bs =>
    let (chars, p) := advance p b
    chars ++ decodeFrom p bs

/-- The characters of a byte string. -/
def decode (b : Bytes) : List Char := decodeFrom .none b

end StorageCommands.Utf8
