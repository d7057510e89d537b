import LedgerNet.Number.Binary

/-!
# JSON values

Nodes are spoken to in JSON. A value keeps everything that the text said
and that some reader may ask about: the members of an object in the order
of the text, repeated names included, and the two things that are legal in
a text but that most readers refuse, a string or a name that is not well
formed and a number that no format can hold. A reader that skips a value
never looks into it, so such a thing does no harm there.
-/

namespace LedgerNet

/-- **A number of a JSON text.** -/
inductive JsonNumber where
  /-- A whole number of 64 bits, with or without a sign. -/
  | whole (value : Int)
  /-- Any other number, as the binary number of 64 bits it is read as. -/
  | binary (value : Binary)
  /-- A number too large for any of these. -/
  | outOfRange
  deriving DecidableEq, Repr

/-- **A JSON value.** -/
inductive Json where
  | null
  | bool (value : Bool)
  | number (value : JsonNumber)
  | text (value : String)
  /-- A string with an escaped half of a surrogate pair on its own. -/
  | brokenText
  | array (items : List Json)
  /-- The members in the order of the text; a name that is not well formed
  is `none`. -/
  | object (members : List (Option String × Json))
  deriving Inhabited

namespace Json

/-- An object with well-formed names. -/
def ofMembers (members : List (String × Json)) : Json :=
  .object (members.map fun member => (some member.1, member.2))

/-- A whole number. -/
def ofNat (n : Nat) : Json := .number (.whole n)

/-- A list of strings. -/
def ofTexts (texts : List String) : Json := .array (texts.map .text)

/-- A value or, in its place, null. -/
def ofOption {α : Type} (encode : α → Json) : Option α → Json
  | some a => encode a
  | none => .null

/-- The last member of an object with a given name. -/
def member? (name : String) : Json → Option Json
  | .object members => (members.reverse.find? fun member => member.1 == some name).map (·.2)
  | _ => none

end Json

end LedgerNet
