/-!
# Durations

A length of time in nanoseconds, its whole milliseconds, and its text: the largest unit that it fills, with as many
decimals as it needs.
-/

namespace StorageCommands

/-- A length of time. -/
structure Duration where
  nanoseconds : Nat
  deriving DecidableEq, Repr

namespace Duration

/-- A number of milliseconds as a length of time. -/
def ofMilliseconds (n : Nat) : Duration := ⟨1000000 * n⟩

/-- The whole milliseconds of a length of time. -/
def milliseconds (d : Duration) : Nat := d.nanoseconds / 1000000

theorem milliseconds_ofMilliseconds (n : Nat) : (ofMilliseconds n).milliseconds = n := by
  simp [milliseconds, ofMilliseconds]

/-- The digits after the point of `rest / 10 ^ places`, without zeros at the end. -/
def decimals (places rest : Nat) : List Char :=
  let digits := Nat.toDigits 10 rest
  let padded := List.replicate (places - digits.length) '0' ++ digits
  (padded.reverse.dropWhile (· = '0')).reverse

/-- A count of a unit that is 10 to the power `places` nanoseconds. -/
def inUnit (nanoseconds places : Nat) (unit : String) : String :=
  let whole := toString (nanoseconds / Nat.pow 10 places)
  match decimals places (nanoseconds % Nat.pow 10 places) with
  | [] => whole ++ unit
  | ds => whole ++ "." ++ String.ofList ds ++ unit

def text (d : Duration) : String :=
  if 1000000000 ≤ d.nanoseconds then inUnit d.nanoseconds 9 "s"
  else if 1000000 ≤ d.nanoseconds then inUnit d.nanoseconds 6 "ms"
  else if 1000 ≤ d.nanoseconds then inUnit d.nanoseconds 3 "µs"
  else inUnit d.nanoseconds 0 "ns"

end Duration

end StorageCommands
