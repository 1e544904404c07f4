import StorageCommands.Text.Utf8

/-!
# Field values

A field holds an integer, bytes, or text. `Values` is a set of them keyed by field, in the order in which the fields
were first given; giving a field again replaces its value in place.
-/

namespace StorageCommands.Layout

/-- What a field holds. -/
inductive Value
  | uint (n : Nat)
  | bytes (b : Bytes)
  | text (s : String)
  deriving DecidableEq, Repr

namespace Value

def uint? : Value → Option Nat
  | uint n => some n
  | _ => none

def bytes? : Value → Option Bytes
  | bytes b => some b
  | _ => none

def text? : Value → Option String
  | text s => some s
  | _ => none

/-- A truth value as the integer 0 or 1. -/
def ofBool (b : Bool) : Value := uint b.toNat

end Value

/-- Field values, each with the field it belongs to. -/
structure Values (ι : Type) where
  entries : List (ι × Value)
  deriving Repr

namespace Values

variable {ι : Type}

def empty : Values ι := ⟨[]⟩

instance : EmptyCollection (Values ι) := ⟨empty⟩

def size (vs : Values ι) : Nat := vs.entries.length

def isEmpty (vs : Values ι) : Bool := vs.entries.isEmpty

variable [DecidableEq ι]

/-- Gives a field a value, in place if it has one and at the end if not, and tells the value that it had before. -/
def put (id : ι) (v : Value) : List (ι × Value) → Option Value × List (ι × Value)
  | [] => (none, [(id, v)])
  | (k, w) :: rest =>
    if k = id then (some w, (k, v) :: rest)
    else
      let (old, rest) := put id v rest
      (old, (k, w) :: rest)

/-- Gives a field a value, and tells the value that it had before. -/
def exchange (vs : Values ι) (id : ι) (v : Value) : Option Value × Values ι :=
  let (old, entries) := put id v vs.entries
  (old, ⟨entries⟩)

def insert (vs : Values ι) (id : ι) (v : Value) : Values ι := (vs.exchange id v).2

/-- The value of a field. Of two entries for one field, the first counts. -/
def get? (vs : Values ι) (id : ι) : Option Value :=
  (vs.entries.find? fun e => e.1 = id).map Prod.snd

/-- The values given one after the other. -/
def ofList (items : List (ι × Value)) : Values ι :=
  items.foldl (fun vs (id, v) => vs.insert id v) ∅

def uint? (vs : Values ι) (id : ι) : Option Nat := (vs.get? id).bind Value.uint?

def bytes? (vs : Values ι) (id : ι) : Option Bytes := (vs.get? id).bind Value.bytes?

def text? (vs : Values ι) (id : ι) : Option String := (vs.get? id).bind Value.text?

/-- The integer that a field holds, zero if it holds none. -/
def uint (vs : Values ι) (id : ι) : Nat := (vs.uint? id).getD 0

/-- The text that a field holds, empty if it holds none. -/
def text (vs : Values ι) (id : ι) : String := (vs.text? id).getD ""

/-- Whether a field holds an integer other than zero. -/
def flag (vs : Values ι) (id : ι) : Bool := (vs.uint? id).any (· ≠ 0)

/-- Whether two sets are of one size and every entry of the first is the second's value of its field. -/
def agree (a b : Values ι) : Bool :=
  a.size = b.size && a.entries.all fun (id, v) => b.get? id = some v

instance : BEq (Values ι) := ⟨agree⟩

end Values

end StorageCommands.Layout
