import LedgerNet.Text.Numeral
import LedgerNet.Yaml.Cursor

/-!
# Scalars

A scalar is a text, and there are five ways to write one: as it is, between
single or double quotes, and as an indented block whose lines are kept or
folded. Where a scalar goes over several lines, a single line end is read as
a space and each further one as a line feed.

Each reader takes a cursor at the beginning of a scalar and answers with the
text and the cursor behind it, or with nothing if there is no such scalar.
A reader goes on only after it has read something, so it ends with the text.
-/

namespace LedgerNet.Yaml

/-- **How a scalar is written.** -/
inductive Style where
  | plain
  | singleQuoted
  | doubleQuoted
  | literal
  | folded
  deriving DecidableEq, Repr

/-! ## Gaps -/

/-- **What stands between two pieces of a scalar**: blanks, or line ends with
blanks around them. -/
structure Gap where
  /-- The blanks, as long as no line has ended. -/
  blanks : List Char
  /-- Whether a line has ended. -/
  broken : Bool
  /-- The text of the first line end. -/
  first : List Char
  /-- The texts of the others. -/
  others : List Char

namespace Gap

def none : Gap := ⟨[], false, [], []⟩

/-- A gap in which a line has ended that is not to be seen. -/
def joined : Gap := ⟨[], true, [], []⟩

/-- The gap with a blank more; after a line end, blanks do not count. -/
def addBlank (gap : Gap) (c : Char) : Gap :=
  if gap.broken then gap else { gap with blanks := gap.blanks ++ [c] }

/-- The gap with a line end more. -/
def addBreak (gap : Gap) (text : List Char) : Gap :=
  if gap.broken then { gap with others := gap.others ++ text }
  else ⟨[], true, text, []⟩

/-- **What a gap is read as.** -/
def text (gap : Gap) : List Char :=
  if !gap.broken then gap.blanks
  else if gap.first.head? == some '\n' then
    if gap.others.isEmpty then [' '] else gap.others
  else gap.first ++ gap.others

/-- Reads a gap. In a plain scalar no tab may stand where the next line is to
be indented. -/
def read (indent : Nat) (gap : Gap) (cur : Cursor) : Option (Gap × Cursor) :=
  match _h : cur.rest with
  | [] => some (gap, cur)
  | c :: _ =>
    if isBlank c then
      if gap.broken && c == '\t' && cur.column < indent then Option.none
      else read indent (gap.addBlank c) (cur.skip 1)
    else if _hc : isBreak c then read indent (gap.addBreak cur.breakText) cur.skipBreak
    else some (gap, cur)
termination_by cur.rest.length
decreasing_by
  · simp [_h]
  · exact cur.length_skipBreak_lt _h _hc

end Gap

/-! ## Plain scalars -/

/-- Characters that mean something inside flow collections. -/
def isFlowIndicator (c : Char) : Bool :=
  c == ',' || c == '[' || c == ']' || c == '{' || c == '}'

/-- The characters of a plain scalar up to a blank, a line end or something
that ends the scalar, and what is left. -/
def plainPiece (inFlow : Bool) : List Char → Option (List Char × List Char)
  | [] => some ([], [])
  | c :: rest =>
    if isBlank c || isBreak c then some ([], c :: rest)
    else if inFlow && c == ':' && rest.head?.any (fun d => d == '?' || isFlowIndicator d) then none
    else if (c == ':' && endsWord rest) || (inFlow && isFlowIndicator c) then some ([], c :: rest)
    else (plainPiece inFlow rest).map fun (piece, left) => (c :: piece, left)

/-- Reads on in a plain scalar. The answer says too whether it ended behind
the end of a line. -/
def readPlainFrom (inFlow : Bool) (indent : Nat) (text : List Char) (gap : Gap) (cur : Cursor) :
    Option (List Char × Bool × Cursor) :=
  if cur.atMark || cur.sees '#' then some (text, gap.broken, cur)
  else do
    let (piece, _) ← plainPiece inFlow cur.rest
    let behind := cur.skip piece.length
    let (text, gap) := if piece.isEmpty then (text, gap) else (text ++ gap.text ++ piece, Gap.none)
    if !behind.seesAny (fun c => isBlank c || isBreak c) then some (text, gap.broken, behind)
    else
      let (gap, after) ← gap.read indent behind
      if !inFlow && after.column < indent then some (text, gap.broken, after)
      else if after.rest.length < cur.rest.length then readPlainFrom inFlow indent text gap after
      else none
termination_by cur.rest.length

/-- **Reads a plain scalar** whose further lines have to be indented. -/
def readPlain (inFlow : Bool) (indent : Nat) (cur : Cursor) : Option (List Char × Bool × Cursor) :=
  readPlainFrom inFlow indent [] .none cur

/-! ## Quoted scalars -/

/-- What a letter after a backslash stands for. -/
def escape? : Char → Option Char
  | '0' => some '\x00' | 'a' => some '\x07' | 'b' => some '\x08' | 't' => some '\t'
  | '\t' => some '\t' | 'n' => some '\n' | 'v' => some '\x0b' | 'f' => some '\x0c'
  | 'r' => some '\r' | 'e' => some '\x1b' | ' ' => some ' ' | '"' => some '"'
  | '/' => some '/' | '\\' => some '\\' | 'N' => some '\u0085' | '_' => some '\u00a0'
  | 'L' => some '\u2028' | 'P' => some '\u2029' | _ => none

/-- How many digits follow a letter that introduces a code point. -/
def codeLength? : Char → Option Nat
  | 'x' => some 2 | 'u' => some 4 | 'U' => some 8 | _ => none

/-- The character with a code point in some hexadecimal digits. -/
def codePoint? (length : Nat) (cs : List Char) : Option Char := do
  let digits := cs.take length
  if digits.length < length then none
  else
    let n ← Text.digits? 16 digits
    if n.isValidChar then some (Char.ofNat n) else none

/-- A piece of a quoted scalar. -/
structure QuotedPiece where
  text : List Char
  rest : List Char
  /-- Whether the piece ends before a line end that is escaped. -/
  joins : Bool

def QuotedPiece.push (c : Char) (piece : QuotedPiece) : QuotedPiece :=
  { piece with text := c :: piece.text }

/-- The characters of a scalar between single quotes up to a blank, a line
end or the quote at the end. -/
def singlePiece : List Char → QuotedPiece
  | [] => ⟨[], [], false⟩
  | '\'' :: '\'' :: rest => (singlePiece rest).push '\''
  | c :: rest =>
    if c == '\'' || isBlank c || isBreak c then ⟨[], c :: rest, false⟩
    else (singlePiece rest).push c

/-- The same between double quotes, where a backslash begins an escape. -/
def doublePiece (cs : List Char) : Option QuotedPiece :=
  match cs with
  | [] => some ⟨[], [], false⟩
  | ['\\'] => none
  | '\\' :: c :: rest =>
    if isBreak c then some ⟨[], '\\' :: c :: rest, true⟩
    else
      match escape? c, codeLength? c with
      | some d, _ => (doublePiece rest).map (·.push d)
      | none, some length => do
        let d ← codePoint? length rest
        (doublePiece (rest.drop length)).map (·.push d)
      | none, none => none
  | c :: rest =>
    if c == '"' || isBlank c || isBreak c then some ⟨[], c :: rest, false⟩
    else (doublePiece rest).map (·.push c)
termination_by cs.length
decreasing_by all_goals simp only [List.length_drop, List.length_cons]; omega

/-- Reads on in a quoted scalar. -/
def readQuotedFrom (quote : Char) (text : List Char) (cur : Cursor) : Option (List Char × Cursor) :=
  if cur.atMark || cur.rest.isEmpty then none
  else do
    let piece ← if quote == '"' then doublePiece cur.rest else some (singlePiece cur.rest)
    let text := text ++ piece.text
    let behind := cur.skip (cur.rest.length - piece.rest.length)
    let (gap, behind) :=
      if piece.joins then (Gap.joined, (behind.skip 1).skipBreak) else (Gap.none, behind)
    if behind.sees quote then some (text, behind.skip 1)
    else
      let (gap, after) ← gap.read 0 behind
      if after.rest.length < cur.rest.length then readQuotedFrom quote (text ++ gap.text) after
      else none
termination_by cur.rest.length

/-- **Reads a quoted scalar**, quotes included. -/
def readQuoted (quote : Char) (cur : Cursor) : Option (List Char × Cursor) :=
  readQuotedFrom quote [] (cur.skip 1)

/-! ## Block scalars -/

/-- What becomes of the line ends at the end of a block. -/
inductive Chomping where
  | strip
  /-- One of them is kept. -/
  | clip
  | keep
  deriving DecidableEq, Repr

def chomping? : Char → Option Chomping
  | '-' => some .strip
  | '+' => some .keep
  | _ => none

/-- A step of indentation, which is at least one. -/
def indentStep? (c : Char) : Option Nat :=
  if '1' ≤ c ∧ c ≤ '9' then some (c.toNat - '0'.toNat) else none

/-- **What stands behind the indicator of a block**: the chomping and the
step of indentation, in either order, and how many characters they take. -/
def blockHeader : List Char → Option (Chomping × Option Nat × Nat)
  | c :: rest =>
    match chomping? c with
    | some chomping =>
      match rest with
      | d :: _ =>
        if d.isDigit then (indentStep? d).map fun step => (chomping, some step, 2)
        else some (chomping, none, 1)
      | [] => some (chomping, none, 1)
    | none =>
      if c.isDigit then
        (indentStep? c).map fun step =>
          match rest.head?.bind chomping? with
          | some chomping => (chomping, some step, 2)
          | none => (.clip, some step, 1)
      else some (.clip, none, 0)
  | [] => some (.clip, none, 0)

/-- Reads line ends and the indentation behind them. Without a known
indentation all spaces are taken, and the most there were are told. -/
def readBreaks (indent : Option Nat) (most : Nat) (breaks : List Char) (cur : Cursor) :
    Option (List Char × Nat × Cursor) :=
  let left := match indent with
    | some n => n - cur.column
    | none => cur.rest.length
  let here := cur.skip ((cur.rest.take left).takeWhile (· == ' ')).length
  let most := max most here.column
  if here.sees '\t' && indent.all (here.column < ·) then none
  else if here.seesAny isBreak then
    let after := here.skipBreak
    if after.rest.length < cur.rest.length then
      readBreaks indent most (breaks ++ here.breakText) after
    else none
  else some (breaks, most, here)
termination_by cur.rest.length

/-- The lines of a block so far: their text, the line end behind the last
one, and whether that one began with a blank. -/
structure BlockText where
  text : List Char
  ending : List Char
  indented : Bool

/-- The text with the line end before another line, and the line ends behind
it. In a folded block a line end between two lines that begin at the
indentation becomes a space, or nothing before further line ends. -/
def BlockText.join (block : BlockText) (folds indented : Bool) (breaks : List Char) : List Char :=
  if folds && block.ending.head? == some '\n' && !block.indented && !indented then
    block.text ++ (if breaks.isEmpty then [' '] else []) ++ breaks
  else block.text ++ block.ending ++ breaks

/-- Reads the lines of a block. -/
def readBlockLines (folds : Bool) (indent : Nat) (block : BlockText) (breaks : List Char)
    (cur : Cursor) : Option (BlockText × List Char × Cursor) :=
  if cur.column ≠ indent || cur.rest.isEmpty then some (block, breaks, cur)
  else do
    let indented := cur.seesAny isBlank
    let line := cur.rest.takeWhile (!isBreak ·)
    let behind := cur.skip line.length
    let text := block.join folds indented breaks ++ line
    let (breaks, _, after) ← readBreaks (some indent) 0 [] behind.skipBreak
    if after.rest.length < cur.rest.length then
      readBlockLines folds indent ⟨text, behind.breakText, indented⟩ breaks after
    else none
termination_by cur.rest.length

/-- **Reads a block** below some indentation, its indicator included. -/
def readBlock (folds : Bool) (above : Option Nat) (cur : Cursor) : Option (List Char × Cursor) := do
  let cur := cur.skip 1
  let (chomping, step, length) ← blockHeader cur.rest
  let cur ← (cur.skip length).skipLineEnd?
  let least := (above.map (· + 1)).getD 0
  let known := step.map fun step => above.getD 0 + step
  let (breaks, most, cur) ← readBreaks known 0 [] cur
  let indent := known.getD (max (max most least) 1)
  let (block, breaks, cur) ← readBlockLines folds indent ⟨[], [], false⟩ breaks cur
  let ending := match chomping with
    | .strip => []
    | .clip => block.ending
    | .keep => block.ending ++ breaks
  return (block.text ++ ending, cur)

end LedgerNet.Yaml
