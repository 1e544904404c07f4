import StorageCommands.Text.Utf8

/-!
# Padded text

Devices report names in byte ranges of a fixed length, filled up with NULs or spaces. `trimEnd` and `trim` take the
padding off a list of characters, and `ofBytes` reads a padded range.
-/

namespace StorageCommands.Padded

/-- The characters that fill up a range. -/
def isPadding (c : Char) : Bool := c = '\x00' || c = ' '

/-- Drops the padding at the end. -/
def trimEnd (cs : List Char) : List Char := (cs.reverse.dropWhile isPadding).reverse

/-- Drops the padding at both ends. -/
def trim (cs : List Char) : List Char := trimEnd (cs.dropWhile isPadding)

/-- The text in a range that is filled up at its end. -/
def ofBytes (b : Bytes) : String := String.ofList (trimEnd (Utf8.decode b))

end StorageCommands.Padded
