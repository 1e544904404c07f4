/-!
# Text in columns

A text is placed in a column of a given width, cut to a number of characters if need be. A text that is wider than its
column sticks out. In the middle of a column, an odd place goes to the right.
-/

namespace StorageCommands.Column

/-- Where a text stands in its column. -/
inductive Alignment
  | left
  | center
  | right
  deriving DecidableEq, Repr

/-- How a text is placed. -/
structure Format where
  width : Nat := 0
  alignment : Alignment := .left
  /-- The character that fills the rest of the column. -/
  filler : Char := ' '
  /-- The largest number of characters, if there is one. -/
  limit : Option Nat := none
  deriving DecidableEq, Repr

/-- The text in its column. -/
def Format.place (f : Format) (s : String) : String :=
  let chars := f.limit.elim s.toList fun n => s.toList.take n
  let free := f.width - chars.length
  let before := match f.alignment with
    | .left => 0
    | .center => free / 2
    | .right => free
  String.ofList (List.replicate before f.filler ++ chars ++ List.replicate (free - before) f.filler)

end StorageCommands.Column
