/-!
# Reading a document of text

Documents are read from the front, and where one stands in them matters: how
far a line is indented says what it belongs to. A cursor is what is left of
a text together with that position.

Five characters end a line, among them the two separators that nothing else
knows; a carriage return and a line feed after it are one end. Blanks are
the space and the tab.
-/

namespace LedgerNet.Yaml

/-- A character that ends a line. -/
def isBreak (c : Char) : Bool :=
  c == '\n' || c == '\r' || c == '\u0085' || c == '\u2028' || c == '\u2029'

def isBlank (c : Char) : Bool := c == ' ' || c == '\t'

/-- A character of names: of anchors, directives and tag handles. -/
def isNameChar (c : Char) : Bool := c.isAlphanum || c == '_' || c == '-'

/-- **A character that may stand in a document** at all. -/
def isAllowed (c : Char) : Bool :=
  let n := c.toNat
  n == 0x09 || n == 0x0a || n == 0x0d || (0x20 ≤ n && n ≤ 0x7e) || n == 0x85
    || (0xa0 ≤ n && n ≤ 0xd7ff) || (0xe000 ≤ n && n ≤ 0xfffd) || 0x10000 ≤ n

/-- Whether a word ends here: with a blank, a line or the text. -/
def endsWord : List Char → Bool
  | [] => true
  | c :: _ => isBlank c || isBreak c

/-- **A place in a text.** -/
structure Cursor where
  /-- What is left. -/
  rest : List Char
  /-- How many characters were read. -/
  index : Nat
  line : Nat
  column : Nat

namespace Cursor

/-- The beginning of a text. -/
def ofText (s : String) : Cursor := ⟨s.toList, 0, 0, 0⟩

/-- The next character. -/
def next? (cur : Cursor) : Option Char := cur.rest.head?

/-- Whether the next character is this one. -/
def sees (cur : Cursor) (c : Char) : Bool := cur.next? == some c

/-- Whether the next character is of some kind. -/
def seesAny (cur : Cursor) (p : Char → Bool) : Bool := cur.next?.any p

/-- Past a number of characters that end no line. -/
def skip (cur : Cursor) (n : Nat) : Cursor :=
  ⟨cur.rest.drop n, cur.index + n, cur.line, cur.column + n⟩

/-- Past the characters of some kind that come next, which end no line. -/
def skipWhile (cur : Cursor) (p : Char → Bool) : Cursor :=
  cur.skip (cur.rest.takeWhile p).length

/-- **Past the end of a line**, if one comes next. -/
def skipBreak (cur : Cursor) : Cursor :=
  match cur.rest with
  | '\r' :: '\n' :: rest => ⟨rest, cur.index + 2, cur.line + 1, 0⟩
  | c :: rest => if isBreak c then ⟨rest, cur.index + 1, cur.line + 1, 0⟩ else cur
  | [] => cur

/-- What the end of a line is read as: the separators stand for themselves,
all others for a line feed. -/
def breakText (cur : Cursor) : List Char :=
  match cur.rest with
  | c :: _ =>
    if c == '\u2028' || c == '\u2029' then [c] else if isBreak c then ['\n'] else []
  | [] => []

/-- **A mark between documents**: three dashes or three dots at the beginning
of a line, and nothing else in the word. -/
def atMark (cur : Cursor) : Bool :=
  cur.column == 0 &&
    match cur.rest with
    | '-' :: '-' :: '-' :: rest | '.' :: '.' :: '.' :: rest => endsWord rest
    | _ => false

/-- Past blanks, a comment and the end of the line, if nothing else is on
it. -/
def skipLineEnd? (cur : Cursor) : Option Cursor :=
  let cur := cur.skipWhile isBlank
  let cur := if cur.sees '#' then cur.skipWhile (!isBreak ·) else cur
  if cur.rest.isEmpty || cur.seesAny isBreak then some cur.skipBreak else none

@[simp] theorem length_skip (cur : Cursor) (n : Nat) :
    (cur.skip n).rest.length = cur.rest.length - n := by
  simp [skip]

theorem length_skipBreak_lt (cur : Cursor) {c : Char} {rest : List Char}
    (h : cur.rest = c :: rest) (hc : isBreak c = true) :
    cur.skipBreak.rest.length < cur.rest.length := by
  unfold skipBreak
  split
  · rename_i more heq
    rw [heq]
    simp only [List.length_cons]
    omega
  · rename_i d more _ heq
    obtain ⟨rfl, rfl⟩ := List.cons.inj (h.symm.trans heq)
    simp [hc, h]
  · rename_i heq
    simp [heq] at h

end Cursor

end LedgerNet.Yaml
