import LedgerNet.Text.Utf8
import LedgerNet.Yaml.Scalar

/-!
# Tokens

A document of text is first cut into tokens: scalars, anchors and tags, the
indicators of flow collections, and the beginnings and ends of blocks, which
are not written at all but follow from how far lines are indented.

A colon makes a key of what stands before it on the line. What may become a
key is remembered where it begins, and when the colon comes the token for
the key is put in there, behind one for the beginning of a mapping if the
line is the first of it. A key has to be on one line and within a thousand
characters of its colon.
-/

namespace LedgerNet.Yaml

inductive Token where
  | version (major minor : Nat)
  /-- A handle and what it stands for. -/
  | tagDirective (handle expansion : String)
  | documentStart
  | documentEnd
  | blockSequence
  | blockMapping
  | blockEnd
  | blockEntry
  | flowSequence
  | flowSequenceEnd
  | flowMapping
  | flowMappingEnd
  | flowEntry
  | key
  | value
  | alias (name : String)
  | anchor (name : String)
  /-- A handle, which may be empty, and what follows it. -/
  | tag (handle suffix : String)
  | scalar (text : String) (style : Style)
  deriving DecidableEq, Repr

/-! ## Directives, anchors and tags -/

namespace Tag

/-- Characters of a tag besides those of names. Two brackets and the comma
only stand in tags between angle brackets. -/
def isUriChar (verbatim : Bool) (c : Char) : Bool :=
  isNameChar c || ";/?:@&=+$.!~*'()".toList.contains c || (verbatim && ",[]".toList.contains c)

/-- Bytes written with a percent sign and two digits each. -/
def escapedBytes : List Char → Option (List UInt8 × List Char)
  | '%' :: high :: low :: rest => do
    let byte ← Text.digits? 16 [high, low]
    let (bytes, rest) ← escapedBytes rest
    return (UInt8.ofNat byte :: bytes, rest)
  | '%' :: _ => none
  | rest => some ([], rest)

/-- The characters of a tag that are not escaped. -/
def plainChars (verbatim : Bool) (cs : List Char) : List Char × List Char :=
  (cs.takeWhile (isUriChar verbatim), cs.dropWhile (isUriChar verbatim))

/-- **The text of a tag** with its escapes decoded, and what is left. -/
def uri (verbatim : Bool) : Nat → List Char → Option (List Char × List Char)
  | 0, cs => some ([], cs)
  | fuel + 1, cs => do
    let (plain, rest) := plainChars verbatim cs
    match rest with
    | '%' :: _ =>
      let (bytes, rest) ← escapedBytes rest
      let decoded ← Text.decodeUtf8Chars bytes
      let (more, rest) ← uri verbatim fuel rest
      return (plain ++ decoded ++ more, rest)
    | _ => return (plain, rest)

/-- An exclamation mark, a name and perhaps another exclamation mark. -/
def handle (cs : List Char) : List Char × List Char :=
  let name := (cs.drop 1).takeWhile isNameChar
  let rest := (cs.drop 1).dropWhile isNameChar
  match rest with
  | '!' :: rest => ('!' :: name ++ ['!'], rest)
  | _ => ('!' :: name, rest)

/-- Whether a handle has an exclamation mark at both ends. -/
def isClosed (handle : List Char) : Bool :=
  1 < handle.length && handle.getLast? == some '!'

/-- **A tag**, in one of its three forms: between angle brackets, with a
handle of its own, or with the plain handle. What it is called and what is
left. -/
def read (cs : List Char) : Option (Token × List Char) :=
  match cs with
  | '!' :: '<' :: rest => do
    let (name, rest) ← uri true cs.length rest
    match rest with
    | '>' :: rest =>
      if name.isEmpty then none else some (.tag "" (String.ofList name), rest)
    | _ => none
  | _ => do
    let (mark, rest) := handle cs
    let (name, rest) ← uri false cs.length rest
    if isClosed mark then
      if name.isEmpty then none
      else some (.tag (String.ofList mark) (String.ofList name), rest)
    else
      let suffix := mark.drop 1 ++ name
      if suffix.isEmpty then some (.tag "" "!", rest)
      else some (.tag "!" (String.ofList suffix), rest)

end Tag

/-- A version: two numbers of at most nine digits with a dot between them. -/
def readVersion (cs : List Char) : Option (Token × List Char) := do
  let number (cs : List Char) : Option (Nat × List Char) := do
    let digits := cs.takeWhile Char.isDigit
    if digits.length ≤ 9 then return (← Text.digits? 10 digits, cs.drop digits.length) else none
  let (major, rest) ← number (cs.dropWhile isBlank)
  match rest with
  | '.' :: rest =>
    let (minor, rest) ← number rest
    return (.version major minor, rest)
  | _ => none

/-- A handle for tags and what it stands for. -/
def readTagDirective (cs : List Char) : Option (Token × List Char) := do
  let cs := cs.dropWhile isBlank
  if cs.head? ≠ some '!' then none
  else
    let (mark, rest) := Tag.handle cs
    if mark ≠ ['!'] ∧ !Tag.isClosed mark ∨ !rest.head?.any isBlank then none
    else
      let rest := rest.dropWhile isBlank
      let (expansion, rest) ← Tag.uri true cs.length rest
      if expansion.isEmpty || !endsWord rest then none
      else some (.tagDirective (String.ofList mark) (String.ofList expansion), rest)

/-- **A directive** and the cursor behind its line. -/
def readDirective (cur : Cursor) : Option (Token × Cursor) := do
  let name := (cur.rest.drop 1).takeWhile isNameChar
  let behind := cur.rest.drop (1 + name.length)
  if !endsWord behind then none
  else
    let (token, rest) ← match String.ofList name with
      | "YAML" => readVersion behind
      | "TAG" => readTagDirective behind
      | _ => none
    return (token, ← (cur.skip (cur.rest.length - rest.length)).skipLineEnd?)

/-- **The name of an anchor**, its indicator included, and the cursor behind
it. -/
def readAnchor (cur : Cursor) : Option (String × Cursor) :=
  let name := (cur.rest.drop 1).takeWhile isNameChar
  let behind := cur.skip (1 + name.length)
  if !name.isEmpty && (endsWord behind.rest
      || behind.seesAny (['?', ':', ',', ']', '}', '%', '@', '\x60'].contains ·))
  then some (String.ofList name, behind)
  else none

/-! ## The scanner -/

/-- **Where something begins that may become a key.** -/
structure KeyMark where
  /-- How many tokens stand before it. -/
  position : Nat
  index : Nat
  line : Nat
  column : Nat
  /-- Whether nothing else can stand there. -/
  required : Bool

/-- **A text that is being cut into tokens.** -/
structure Scanner where
  cursor : Cursor
  tokens : Array Token
  /-- The columns of the open blocks, the innermost first. -/
  indents : List Nat
  /-- What may become a key, for each open flow collection and for the text
  around them, the innermost first. -/
  keys : List (Option KeyMark)
  /-- Whether a key may begin here. -/
  keyAllowed : Bool

namespace Scanner

def ofText (s : String) : Scanner := ⟨Cursor.ofText s, #[], [], [none], true⟩

/-- Whether the cursor is in a flow collection. -/
def inFlow (s : Scanner) : Bool := 1 < s.keys.length

def emit (s : Scanner) (token : Token) : Scanner := { s with tokens := s.tokens.push token }

/-- The scanner past some characters. -/
def skip (s : Scanner) (n : Nat) : Scanner := { s with cursor := s.cursor.skip n }

/-- The scanner where a key may begin, or may not. -/
def allowing (s : Scanner) (keyAllowed : Bool) : Scanner := { s with keyAllowed }

/-! ### Keys to be -/

/-- Past this many characters nothing becomes a key any more. -/
def longestKey : Nat := 1024

/-- Whether a mark is too far back to become a key. -/
def isStale (s : Scanner) (mark : KeyMark) : Bool :=
  mark.line < s.cursor.line || mark.index + longestKey < s.cursor.index

/-- Forgets the marks that are too far back. -/
def dropStale (s : Scanner) : Option Scanner := do
  let keys ← s.keys.mapM fun key =>
    match key with
    | some mark =>
      if s.isStale mark then (if mark.required then none else some none) else some (some mark)
    | none => some none
  return { s with keys }

/-- Forgets the innermost mark. -/
def dropKey (s : Scanner) : Option Scanner :=
  match s.keys with
  | some mark :: rest => if mark.required then none else some { s with keys := none :: rest }
  | _ => some s

/-- Remembers that a key may begin here. -/
def markKey (s : Scanner) : Option Scanner :=
  if s.keyAllowed then do
    let s ← s.dropKey
    let cur := s.cursor
    let required := !s.inFlow && s.indents.head? == some cur.column
    return { s with keys := some ⟨s.tokens.size, cur.index, cur.line, cur.column, required⟩
      :: s.keys.drop 1 }
  else some s

/-! ### Blocks -/

/-- Closes blocks that are indented further than a column; all of them
without one. -/
def closeBlocks (column : Option Nat) (tokens : Array Token) :
    List Nat → Array Token × List Nat
  | [] => (tokens, [])
  | indent :: rest =>
    if column.all (· < indent) then closeBlocks column (tokens.push .blockEnd) rest
    else (tokens, indent :: rest)

/-- The scanner with those blocks closed. In flow collections indentation
means nothing. -/
def unindent (s : Scanner) (column : Option Nat) : Scanner :=
  if s.inFlow then s
  else
    let (tokens, indents) := closeBlocks column s.tokens s.indents
    { s with tokens, indents }

/-- Opens a block at a column if none is open there; its token goes to a
position. -/
def indentTo (s : Scanner) (column : Nat) (position : Nat) (token : Token) : Scanner :=
  if s.inFlow || s.indents.head?.any (column ≤ ·) then s
  else { s with
    indents := column :: s.indents
    tokens := s.tokens.insertIdxIfInBounds position token }

/-- Opens a block where the cursor is. -/
def indentHere (s : Scanner) (token : Token) : Scanner :=
  s.indentTo s.cursor.column s.tokens.size token

/-! ### Tokens -/

/-- Past blanks, comments and line ends. Tabs count as blanks only where no
key may begin. -/
def skipBlanks (s : Scanner) : Scanner :=
  let start := if s.cursor.index == 0 && s.cursor.sees '\ufeff' then s.cursor.skip 1 else s.cursor
  let tabs := s.inFlow || !s.keyAllowed
  let cur := start.skipWhile fun c => c == ' ' || (tabs && c == '\t')
  let cur := if cur.sees '#' then cur.skipWhile (!isBreak ·) else cur
  if cur.seesAny isBreak then
    let after := { s with cursor := cur.skipBreak, keyAllowed := s.keyAllowed || !s.inFlow }
    if _h : after.cursor.rest.length < s.cursor.rest.length then skipBlanks after else after
  else { s with cursor := cur }
termination_by s.cursor.rest.length
decreasing_by exact _h

/-- A directive or a mark between documents, which close all blocks. -/
def readAtMargin (s : Scanner) (read : Scanner → Option Scanner) : Option Scanner := do
  read ((← (s.unindent none).dropKey).allowing false)

def readMark (token : Token) (s : Scanner) : Option Scanner := some ((s.skip 3).emit token)

def readDirectiveLine (s : Scanner) : Option Scanner := do
  let (token, cursor) ← readDirective s.cursor
  return { s with cursor }.emit token

/-- The beginning of a flow collection. -/
def openFlow (token : Token) (s : Scanner) : Option Scanner := do
  let s ← s.markKey
  return ({ s with keys := none :: s.keys, keyAllowed := true }.skip 1).emit token

/-- The end of a flow collection. -/
def closeFlow (token : Token) (s : Scanner) : Option Scanner := do
  let s ← s.dropKey
  let keys := if s.inFlow then s.keys.drop 1 else s.keys
  return ({ s with keys, keyAllowed := false }.skip 1).emit token

def readFlowEntry (s : Scanner) : Option Scanner := do
  return (((← s.dropKey).allowing true).skip 1).emit .flowEntry

/-- A dash that begins an entry. -/
def readBlockEntry (s : Scanner) : Option Scanner := do
  if !s.inFlow && !s.keyAllowed then none
  else return (((← (s.indentHere .blockSequence).dropKey).allowing true).skip 1).emit .blockEntry

/-- A question mark that begins a key. -/
def readKey (s : Scanner) : Option Scanner := do
  if !s.inFlow && !s.keyAllowed then none
  else return (((← (s.indentHere .blockMapping).dropKey).allowing (!s.inFlow)).skip 1).emit .key

/-- A colon. It makes a key of what was marked, or follows one that a
question mark began. -/
def readValue (s : Scanner) : Option Scanner :=
  match s.keys with
  | some mark :: rest =>
    let s := { s with
      keys := none :: rest
      tokens := s.tokens.insertIdxIfInBounds mark.position .key }
    some (((s.indentTo mark.column mark.position .blockMapping).allowing false).skip 1
      |>.emit .value)
  | _ =>
    if !s.inFlow && !s.keyAllowed then none
    else some ((((s.indentHere .blockMapping).allowing (!s.inFlow)).skip 1).emit .value)

/-- Something that may become a key and after which none may begin. -/
def readMarked (s : Scanner) (read : Cursor → Option (Token × Cursor)) : Option Scanner := do
  let s ← s.markKey
  let (token, cursor) ← read s.cursor
  return { s with cursor, keyAllowed := false }.emit token

/-- A tag, which a blank has to follow, or a comma in a flow collection. -/
def readTag (inFlow : Bool) (cur : Cursor) : Option (Token × Cursor) := do
  let (token, rest) ← Tag.read cur.rest
  if endsWord rest || (inFlow && rest.head? == some ',') then
    return (token, cur.skip (cur.rest.length - rest.length))
  else none

def readQuotedToken (quote : Char) (style : Style) (cur : Cursor) : Option (Token × Cursor) := do
  let (text, cur) ← readQuoted quote cur
  return (.scalar (String.ofList text) style, cur)

/-- A block, behind which a key may begin. -/
def readBlockToken (folds : Bool) (s : Scanner) : Option Scanner := do
  let s ← s.dropKey
  let (text, cursor) ← readBlock folds s.indents.head? s.cursor
  let style := if folds then Style.folded else Style.literal
  return { s with cursor, keyAllowed := true }.emit (.scalar (String.ofList text) style)

/-- A plain scalar. Where it ended behind the end of a line, a key may begin
again. -/
def readPlainToken (s : Scanner) : Option Scanner := do
  let s ← s.markKey
  let indent := (s.indents.head?.map (· + 1)).getD 0
  let (text, broken, cursor) ← readPlain s.inFlow indent s.cursor
  return { s with cursor, keyAllowed := broken }.emit (.scalar (String.ofList text) .plain)

/-- Characters that no plain scalar begins with. -/
def indicators : List Char :=
  ['-', '?', ':', ',', '[', ']', '{', '}', '#', '&', '*', '!', '|', '>', '\'', '"', '%', '@',
    '\x60']

/-- Whether a plain scalar begins here. -/
def beginsPlain (inFlow : Bool) : List Char → Bool
  | [] => false
  | c :: rest =>
    !(isBlank c || isBreak c || indicators.contains c)
      || (c == '-' && !rest.head?.any isBlank)
      || (!inFlow && (c == '?' || c == ':') && !endsWord rest)

/-- **The next token**, behind blanks, comments and the ends of blocks. -/
def readToken (s : Scanner) : Option Scanner :=
  let cur := s.cursor
  match cur.rest with
  | [] => none
  | c :: rest =>
    if cur.column == 0 && c == '%' then s.readAtMargin readDirectiveLine
    else if cur.atMark then
      s.readAtMargin (readMark (if c == '-' then .documentStart else .documentEnd))
    else if c == '[' then s.openFlow .flowSequence
    else if c == '{' then s.openFlow .flowMapping
    else if c == ']' then s.closeFlow .flowSequenceEnd
    else if c == '}' then s.closeFlow .flowMappingEnd
    else if c == ',' then s.readFlowEntry
    else if c == '-' && endsWord rest then s.readBlockEntry
    else if c == '?' && (s.inFlow || endsWord rest) then s.readKey
    else if c == ':' && (s.inFlow || endsWord rest) then s.readValue
    else if c == '*' then
      s.readMarked fun cur => (readAnchor cur).map fun (name, cur) => (.alias name, cur)
    else if c == '&' then
      s.readMarked fun cur => (readAnchor cur).map fun (name, cur) => (.anchor name, cur)
    else if c == '!' then s.readMarked (readTag s.inFlow)
    else if c == '|' && !s.inFlow then s.readBlockToken false
    else if c == '>' && !s.inFlow then s.readBlockToken true
    else if c == '\'' then s.readMarked (readQuotedToken c .singleQuoted)
    else if c == '"' then s.readMarked (readQuotedToken c .doubleQuoted)
    else if beginsPlain s.inFlow cur.rest then s.readPlainToken
    else none

/-- The scanner at the next token. -/
def advance (s : Scanner) : Option Scanner := do
  let s ← s.skipBlanks.dropStale
  return s.unindent (some s.cursor.column)

/-- **All tokens.** -/
def readAll (s : Scanner) : Option (Array Token) := do
  let here ← s.advance
  if here.cursor.rest.isEmpty then return (← (here.unindent none).dropKey).tokens
  else
    let after ← here.readToken
    if after.cursor.rest.length < s.cursor.rest.length then readAll after else none
termination_by s.cursor.rest.length

end Scanner

/-- **The tokens of a text**, if every character of it may stand in a
document. -/
def tokens? (s : String) : Option (List Token) :=
  if s.toList.all isAllowed then (Scanner.ofText s).readAll.map Array.toList else none

end LedgerNet.Yaml
