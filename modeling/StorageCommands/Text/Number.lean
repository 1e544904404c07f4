/-!
# Numbers as text

Numbers in base 16 are written with the mark `0x` and lower-case digits, at least one of them. `hidden` leaves out
the numbers in a text.
-/

namespace StorageCommands.Number

/-- The base-16 digits of a number, at least `width` of them. -/
def hexDigits (width n : Nat) : List Char :=
  let digits := Nat.toDigits 16 n
  List.replicate (width - digits.length) '0' ++ digits

/-- A number in base 16 with at least `width` digits. -/
def hexPadded (width n : Nat) : String := "0x" ++ String.ofList (hexDigits width n)

/-- A number in base 16. -/
def hex (n : Nat) : String := hexPadded 1 n

/-- The characters with an underscore in place of each run of digits; `inside` says whether a run has begun before. -/
def hideDigits (inside : Bool) : List Char → List Char
  | [] => []
  | c :: cs =>
    if !c.isDigit then c :: hideDigits false cs
    else if inside then hideDigits true cs
    else '_' :: hideDigits true cs

/-- A text with its numbers left out. -/
def hidden (text : String) : String := String.ofList (hideDigits false text.toList)

end StorageCommands.Number
