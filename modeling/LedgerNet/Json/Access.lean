import LedgerNet.Json.Basic
import LedgerNet.Lane
import LedgerNet.Net.Ip
import LedgerNet.Number.Checked

/-!
# Looking into JSON values

A member that is null counts as one that is not there, so a document can
leave out what it does not care about in either way. What is there must be
of the right kind.
-/

namespace LedgerNet.Json

/-- **A member that is there** and not null. -/
def get? (j : Json) (name : String) : Option Json :=
  match j.member? name with
  | some .null => none
  | value => value

def asText : Json → Option String
  | .text s => some s
  | _ => none

/-- A number that is not negative and fits into 64 bits. -/
def asNat : Json → Option Nat
  | .number (.whole n) => if 0 ≤ n ∧ n.toNat < 2 ^ 64 then some n.toNat else none
  | _ => none

def asInt : Json → Option Int
  | .number (.whole n) => some n
  | _ => none

def asBool : Json → Option Bool
  | .bool b => some b
  | _ => none

def asItems : Json → Option (List Json)
  | .array items => some items
  | _ => none

def asTexts (j : Json) : Option (List String) := (asItems j).bind (·.mapM asText)

/-- A decimal number written as a string. -/
def asDigits (j : Json) : Option Nat := (asText j).bind fun s => Text.digits? 10 s.toList

/-- An amount written as a string. -/
def asAmount (j : Json) : Option Amount := (asText j).bind Text.readUInt64?

def asLane (j : Json) : Option Lane := (asText j).bind Lane.ofLetter?

def asIp (j : Json) : Option Ip := (asText j).bind Ip.ofText?

/-- **The members of an object in the order of their names**, each read. -/
def asBook {α : Type} (read : Json → Option α) : Json → Option (List (String × α))
  | .object members =>
    (members.mergeSort fun a b => decide (a.1.getD "" ≤ b.1.getD "")).mapM fun (name, value) =>
      return (← name, ← read value)
  | _ => none

/-- Reading a document; what cannot be read is named. -/
abbrev Reading := Except String

/-- **A member that must be there.** -/
def need {α : Type} (j : Json) (name : String) (read : Json → Option α) : Reading α :=
  match (j.get? name).bind read with
  | some a => .ok a
  | none => .error name

/-- **A number that must be there.** -/
def needNat (j : Json) (name : String) : Reading Nat :=
  (j.need name asNat).mapError (· ++ ": number expected")

/-- **A member that may be left out.** -/
def opt {α : Type} (j : Json) (name : String) (read : Json → Option α) : Reading (Option α) :=
  match j.get? name with
  | none => .ok none
  | some value =>
    match read value with
    | some a => .ok (some a)
    | none => .error name

/-- A member with a default. -/
def optD {α : Type} (j : Json) (name : String) (read : Json → Option α) (default : α) :
    Reading α := do
  return (← j.opt name read).getD default

/-- A text; a missing one is empty. -/
def textAt (j : Json) (name : String) : Reading String := j.optD name asText ""

/-- A part of a document; a missing one has no members. -/
def part (j : Json) (name : String) : Json := (j.get? name).getD (.object [])

end LedgerNet.Json
