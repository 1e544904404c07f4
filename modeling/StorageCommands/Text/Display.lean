import StorageCommands.Text.Number
import StorageCommands.Text.Printable

/-!
# Values as text

The one-line form in which log lines and diagnostics show a value: records with their field names, constructors with
their arguments, lists, options, and quoted text.
-/

namespace StorageCommands.Display

/-- The opening brace of a record. -/
def openBrace : String := "\x7b"

/-- The closing brace of a record. -/
def closeBrace : String := "\x7d"

/-- A truth value. -/
def bool (b : Bool) : String := if b then "true" else "false"

/-- A list in brackets. -/
def list (items : List String) : String := "[" ++ ", ".intercalate items ++ "]"

/-- A constructor and its argument in parentheses. -/
def applied (name argument : String) : String := name ++ "(" ++ argument ++ ")"

/-- A value that may be absent. -/
def option : Option String → String
  | none => "None"
  | some s => applied "Some" s

/-- A record: its name, then its fields in order. -/
def record (name : String) (fields : List (String × String)) : String :=
  let inner := ", ".intercalate (fields.map fun (field, value) => field ++ ": " ++ value)
  name ++ " " ++ openBrace ++ " " ++ inner ++ " " ++ closeBrace

/-- A character inside quotes. Quotes, backslashes and everything without a glyph of its own are written as escapes. -/
def quotedChar (c : Char) : String :=
  if c = '\x00' then "\\0"
  else if c = '\t' then "\\t"
  else if c = '\n' then "\\n"
  else if c = '\r' then "\\r"
  else if c = '"' then "\\\""
  else if c = '\\' then "\\\\"
  else if Printable.isPrintable c then String.singleton c
  else "\\u" ++ openBrace ++ String.ofList (Number.hexDigits 1 c.toNat) ++ closeBrace

/-- A text in double quotes. -/
def quoted (s : String) : String := "\"" ++ String.join (s.toList.map quotedChar) ++ "\""

end StorageCommands.Display
