import StorageCommands.Trace.Event

/-!
# Log filters

A filter is a list of directives, separated by commas. A directive is a level, the default for all targets; a target,
which shows everything; or `target=level`, where the target can be followed by value names in `[{` and `}]` that an
event has to carry. A directive applies to every target that begins with its own, and of those that apply to an event
the most specific one decides: the one with the longest target, and of equal ones the one with the most value names.
Of two directives with one scope the later one counts.

`Filter.parse` reads a filter and `Filter.shows` applies it.
-/

namespace StorageCommands.Trace

/-- How much a directive shows: nothing, or the levels up to one. -/
abbrev Verbosity := Nat

namespace Verbosity

/-- Everything. -/
def all : Verbosity := 5

/-- The words for what to show. -/
def names : List (String × Verbosity) :=
  [("off", 0), ("error", 1), ("warn", 2), ("info", 3), ("debug", 4), ("trace", 5)]

/-- The number that decimal digits stand for; a plus sign may stand in front. -/
def number? (s : List Char) : Option Nat :=
  let digits := match s with
    | '+' :: rest => rest
    | _ => s
  if digits.isEmpty ∨ digits.any (fun c => !c.isDigit) then none
  else some (digits.foldl (fun n c => 10 * n + (c.toNat - '0'.toNat)) 0)

/-- Reads what to show: a number from 0 to 5, a word in letters of any case, or nothing, which stands for errors. -/
def parse? (s : List Char) : Option Verbosity :=
  match number? s with
  | some n => if n ≤ all then some n else none
  | none => if s.isEmpty then some 1 else names.lookup (String.ofList (s.map Char.toLower))

end Verbosity

/-- What to show of the events that it applies to. -/
structure Directive where
  /-- How the target of an event has to begin, if that matters. -/
  target : Option (List Char) := none
  /-- The values that an event has to carry. -/
  values : List (List Char) := []
  shown : Verbosity
  deriving DecidableEq, Repr

/-- The parts of a text between the places where a character stands. -/
def splitAt (sep : Char) : List Char → List (List Char)
  | [] => [[]]
  | c :: cs =>
    if c = sep then [] :: splitAt sep cs
    else match splitAt sep cs with
      | [] => [[c]]
      | part :: parts => (c :: part) :: parts

/-- The parts of a text between the places where `[{` stands. -/
def splitAtValues : List Char → List (List Char)
  | [] => [[]]
  | '[' :: '\x7b' :: cs => [] :: splitAtValues cs
  | c :: cs =>
    match splitAtValues cs with
    | [] => [[c]]
    | part :: parts => (c :: part) :: parts

/-- The end of a list of value names. -/
def valuesEnd : List Char := ['\x7d', ']']

/-- A list of value names without all the closing brackets at its end; none if there are no brackets. -/
def dropValuesEnd (s : List Char) : Option (List Char) :=
  let rec strip : List Char → List Char
    | ']' :: '\x7d' :: rest => strip rest
    | rest => rest
  if valuesEnd.isSuffixOf s then some (strip s.reverse).reverse else none

namespace Directive

/-- Reads a target with the value names that may follow it. -/
def parseTarget? (s : List Char) : Option (List Char × List (List Char)) :=
  match splitAtValues s with
  | [target] => some (target, [])
  | [target, values] => (dropValuesEnd values).map fun vs => (target, (splitAt ',' vs).filter (!·.isEmpty))
  | _ => none

/-- Reads a directive. -/
def parse? (s : List Char) : Option Directive :=
  match splitAt '=' s with
  | [part] =>
    match Verbosity.parse? part with
    | some shown => some { shown }
    | none => some { target := some part, shown := .all }
  | [part, level] => do
    let (target, values) ← parseTarget? part
    let shown ← Verbosity.parse? level
    return { target := some target, values, shown }
  | _ => none

/-- Whether a directive applies to an event. A message counts as a value. -/
def appliesTo (d : Directive) (e : Event) : Bool :=
  (match d.target with
    | none => true
    | some target => target.isPrefixOf e.target.toList)
  && d.values.all fun v => v = "message".toList || e.values.any fun (name, _) => name.toList = v

/-- The number of bytes of the target, counted from one; zero without a target. -/
def targetRank (d : Directive) : Nat := d.target.elim 0 fun t => (String.ofList t).utf8ByteSize + 1

/-- Whether one directive is more specific than another one: by the target, then by the number of value names, then
by their order. -/
def moreSpecific (a b : Directive) : Bool :=
  b.targetRank < a.targetRank
    || a.targetRank = b.targetRank
      && (b.values.length < a.values.length || a.values.length = b.values.length && b.values < a.values)

end Directive

/-- Directives; the latest one for a scope counts. -/
abbrev Filter := List Directive

namespace Filter

/-- Reads a filter. -/
def parse? (s : String) : Option Filter := (splitAt ',' s.toList).mapM Directive.parse?

/-- The filter that shows everything but traces. -/
def standard : Filter := [{ shown := 4 }]

/-- The filter that a setting asks for; without a setting that can be read, the standard one. -/
def ofSetting (setting : Option String) : Filter := (setting.bind parse?).getD standard

/-- Of two directives that apply, the one that decides: the more specific one, else the later one. -/
def decide (earlier : Option Directive) (later : Directive) : Option Directive :=
  match earlier with
  | none => some later
  | some d => if d.moreSpecific later then some d else some later

/-- Whether a filter shows an event. -/
def shows (f : Filter) (e : Event) : Bool :=
  match (f.filter (·.appliesTo e)).foldl decide none with
  | none => false
  | some d => e.level.verbosity ≤ d.shown

end Filter

end StorageCommands.Trace
