import LedgerNet.Json.Reader

/-!
# From JSON to records

How a record is read out of a JSON value. A record with named fields may be
written as an object, in any order and with members that nobody asked for,
or as an array of its fields in their order. A field that is missing is an
error unless the record says what it is then; a field that is given twice
is always one.

A value may nest at most 127 levels deep where it is read. What is skipped
may nest as it likes.
-/

namespace LedgerNet

namespace Json

/-- **A decoder** reads a value at some remaining depth. -/
abbrev Decoder (α : Type) := Nat → Json → Option α

/-- The depth with which a whole text is read. -/
def startingDepth : Nat := 128

/-- One level further in, if there is one. -/
def deeper? (depth : Nat) : Option Nat :=
  if depth ≤ 1 then none else some (depth - 1)

namespace Decoder

/-- Reads a whole text. -/
def run {α : Type} (decoder : Decoder α) (s : String) : Option α := do
  decoder startingDepth (← Json.ofText? s)

def string : Decoder String
  | _, .text s => some s
  | _, _ => none

def truth : Decoder Bool
  | _, .bool b => some b
  | _, _ => none

/-- A whole number that is not negative and below a bound. -/
def natural (bound : Nat) : Decoder Nat
  | _, .number (.whole n) => if 0 ≤ n ∧ n < bound then some n.toNat else none
  | _, _ => none

/-- A whole number of 64 bits with a sign. -/
def integer : Decoder Int
  | _, .number (.whole n) => if -(2 ^ 63 : Int) ≤ n ∧ n < 2 ^ 63 then some n else none
  | _, _ => none

/-- A number of 64 bits written as a string. -/
def numeral : Decoder UInt64
  | _, .text s => Text.readUInt64? s
  | _, _ => none

/-- A value, or null in its place. -/
def nullable {α : Type} (decoder : Decoder α) : Decoder (Option α)
  | _, .null => some none
  | depth, value => (decoder depth value).map some

/-- An array of values of one kind. -/
def list {α : Type} (decoder : Decoder α) : Decoder (List α)
  | depth, .array items => do
    let depth ← deeper? depth
    items.mapM (decoder depth)
  | _, _ => none

/-- The name of a variant without contents: the name as a string, or an
object with that name and null. -/
def variantName : Decoder String
  | _, .text s => some s
  | depth, .object [(some name, .null)] => (deeper? depth).map fun _ => name
  | _, _ => none

end Decoder

/-! ## Records -/

/-- What was found for a field. -/
inductive Slot where
  | found (value : Json)
  /-- No member of the object has its name. -/
  | noMember
  /-- The array ends before its place. -/
  | noItem

/-- The fields of an object: `none` if a name is broken or a field is given
twice. -/
def slotsOfMembers (names : List String) (members : List (Option String × Json)) :
    Option (List Slot) :=
  if members.any (·.1.isNone) then none
  else
    names.mapM fun name =>
      match members.filter (·.1 == some name) with
      | [] => some .noMember
      | [(_, value)] => some (.found value)
      | _ => none

/-- The fields of an array: `none` if it has more items than there are
fields. -/
def slotsOfItems (names : List String) (items : List Json) : Option (List Slot) :=
  if names.length < items.length then none
  else some (items.map .found ++ List.replicate (names.length - items.length) .noItem)

/-- **The fields of a record**, in the order of their names, and the depth
at which they are read. -/
def slots? (names : List String) (depth : Nat) : Json → Option (List Slot × Nat)
  | .object members => do return (← slotsOfMembers names members, ← deeper? depth)
  | .array items => do return (← slotsOfItems names items, ← deeper? depth)
  | _ => none

namespace Slot

/-- A field that must be there. -/
def required {α : Type} (decoder : Decoder α) (depth : Nat) : Slot → Option α
  | .found value => decoder depth value
  | _ => none

/-- A field that is null where an object leaves it out. -/
def optional {α : Type} (decoder : Decoder α) (depth : Nat) : Slot → Option (Option α)
  | .found value => decoder.nullable depth value
  | .noMember => some none
  | .noItem => none

/-- A field that is null wherever it is left out. -/
def defaulted {α : Type} (decoder : Decoder α) (depth : Nat) : Slot → Option (Option α)
  | .found value => decoder.nullable depth value
  | _ => some none

end Slot

/-! ## Any value -/

mutual

/-- **A value taken as it is**, if all of it makes sense: strings and names
well formed, numbers in range, and not too deep. Of two members with one
name the later one counts. -/
def anyValue (depth : Nat) : Json → Option Json
  | .null => some .null
  | .bool b => some (.bool b)
  | .number .outOfRange => none
  | .number n => some (.number n)
  | .text s => some (.text s)
  | .brokenText => none
  | .array items => do
    let depth ← deeper? depth
    return .array (← anyItems depth items)
  | .object members => do
    let depth ← deeper? depth
    return .object (← anyMembers depth members)

/-- The items of an array. -/
def anyItems (depth : Nat) : List Json → Option (List Json)
  | [] => some []
  | item :: rest => do return (← anyValue depth item) :: (← anyItems depth rest)

/-- The members of an object, a name that comes again later left out. -/
def anyMembers (depth : Nat) : List (Option String × Json) → Option (List (Option String × Json))
  | [] => some []
  | (none, _) :: _ => none
  | (some name, value) :: rest => do
    let value ← anyValue depth value
    let rest ← anyMembers depth rest
    return if rest.any (·.1 == some name) then rest else (some name, value) :: rest

end

end Json

end LedgerNet
