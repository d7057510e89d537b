import LedgerNet.Text.Numeral
import LedgerNet.Yaml.Node

/-!
# Typed values in documents

What kind of value a scalar is depends on how it is written: a number or a
truth value is a plain scalar, and a scalar in quotes is a text. Where a
text is wanted every scalar is one. Aliases stand for their nodes
everywhere.

Each reader answers with nothing if the node is not of its kind. A record
knows its fields, and a field that it does not know, or that comes twice, is
refused.
-/

namespace LedgerNet.Yaml

/-- The names of the tags that single out a kind of scalar. -/
inductive Kind where
  | absent
  | truth
  | whole
  deriving DecidableEq, Repr

namespace Kind

def tag : Kind → String
  | absent => "tag:yaml.org,2002:null"
  | truth => "tag:yaml.org,2002:bool"
  | whole => "tag:yaml.org,2002:int"

end Kind

/-- The words for a value that is not there. -/
def isAbsentWord (s : String) : Bool := ["~", "null", "Null", "NULL"].contains s

/-- A truth value in one of its spellings. -/
def readTruth? (s : String) : Option Bool :=
  if ["true", "True", "TRUE"].contains s then some true
  else if ["false", "False", "FALSE"].contains s then some false
  else none

/-- Whether a number is written with zeros before it, and so is none. -/
def hasLeadingZero : List Char → Bool
  | '0' :: d :: rest => (d :: rest).all Char.isDigit
  | _ => false

/-- **A whole number**: an optional plus sign and digits, decimal ones or,
behind a mark, those of another base. -/
def readWhole? (s : String) : Option Nat :=
  match Text.dropPlus s.toList with
  | '0' :: 'x' :: digits => Text.digits? 16 digits
  | '0' :: 'o' :: digits => Text.digits? 8 digits
  | '0' :: 'b' :: digits => Text.digits? 2 digits
  | digits => if hasLeadingZero digits then none else Text.digits? 10 digits

namespace Document

variable (doc : Document)

/-- **A text**: any scalar is one. -/
def text? (node : Node) : Option String :=
  match doc.resolve node with
  | .scalar _ _ text _ => some text
  | _ => none

/-- The text of a scalar that may be of a kind other than text: a plain one,
or a block that says so by its tag. -/
def bareText? (kind : Kind) (node : Node) : Option String :=
  match doc.resolve node with
  | .scalar _ tag text style =>
    if style = .plain ∨ (style = .literal ∧ tag = some kind.tag) then some text else none
  | _ => none

def truth? (node : Node) : Option Bool :=
  (doc.bareText? .truth node).bind readTruth?

/-- A whole number below a bound. -/
def whole? (bound : Nat) (node : Node) : Option Nat :=
  ((doc.bareText? .whole node).bind readWhole?).filter (· < bound)

/-- **A value that may be absent**: a plain scalar that is empty or a word
for nothing stands for no value. With a tag it is a value, unless the tag
says that it is none. -/
def optional? {α : Type} (read : Node → Option α) (node : Node) : Option (Option α) :=
  match doc.resolve node with
  | .scalar _ (some tag) text .plain =>
    if tag = Kind.absent.tag then (if isAbsentWord text then some none else none)
    else (read node).map some
  | .scalar _ none text .plain =>
    if text = "" ∨ isAbsentWord text then some none else (read node).map some
  | _ => (read node).map some

/-- **The items of a sequence**; an empty scalar has none. -/
def items? (node : Node) : Option (List Node) :=
  match doc.resolve node with
  | .sequence _ items => some items
  | .scalar _ _ text _ => if text = "" then some [] else none
  | _ => none

/-- The entries of a mapping whose keys are texts; an empty scalar has
none. -/
def entries? (node : Node) : Option (List (String × Node)) :=
  match doc.resolve node with
  | .mapping _ entries => entries.mapM fun entry => (doc.text? entry.1).map (·, entry.2)
  | .scalar _ _ text _ => if text = "" then some [] else none
  | _ => none

end Document

/-- Whether no text comes twice. -/
def allDistinct : List String → Bool
  | [] => true
  | name :: names => !names.contains name && allDistinct names

/-- **A record**: the fields that are there. -/
abbrev Fields := List (String × Node)

/-- The fields of a node that is a record with the given names. -/
def Document.record? (doc : Document) (names : List String) (node : Node) : Option Fields :=
  (doc.entries? node).filter fun fields =>
    fields.all (fun field => names.contains field.1) && allDistinct (fields.map (·.1))

namespace Fields

/-- A field that has to be there. -/
def required (fields : Fields) (name : String) {α : Type} (read : Node → Option α) : Option α :=
  (fields.lookup name).bind read

/-- A field with a value to take if it is not there. -/
def withDefault (fields : Fields) (name : String) {α : Type} (default : α)
    (read : Node → Option α) : Option α :=
  match fields.lookup name with
  | some node => read node
  | none => some default

end Fields

end LedgerNet.Yaml
