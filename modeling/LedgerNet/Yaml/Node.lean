import LedgerNet.Yaml.Token

/-!
# Documents

The tokens of a text are put together to a tree of scalars, sequences and
mappings. A node may have an anchor, and an alias elsewhere stands for the
node with that anchor; so that an alias in the tree says which one is meant,
anchors are numbered as they come.

A text holds one document. One without any node in it, and one whose only
node is left out, is a document with an empty scalar.
-/

namespace LedgerNet.Yaml

/-- **A node of a document.** -/
inductive Node where
  | scalar (anchor : Option Nat) (tag : Option String) (text : String) (style : Style)
  | sequence (anchor : Option Nat) (items : List Node)
  | mapping (anchor : Option Nat) (entries : List (Node × Node))
  /-- Stands for the node with an anchor. -/
  | alias (target : Nat)
  deriving Repr

namespace Node

/-- What stands where a node is left out. -/
def empty : Node := .scalar none none "" .plain

/-! ## Anchors -/

mutual
/-- **The nodes with anchors in a tree**, each before those inside it. -/
def anchored : Node → List (Nat × Node)
  | .scalar anchor tag text style =>
    (anchor.map fun n => (n, Node.scalar anchor tag text style)).toList
  | .sequence anchor items =>
    (anchor.map fun n => (n, Node.sequence anchor items)).toList ++ anchoredItems items
  | .mapping anchor entries =>
    (anchor.map fun n => (n, Node.mapping anchor entries)).toList ++ anchoredEntries entries
  | .alias _ => []

def anchoredItems : List Node → List (Nat × Node)
  | [] => []
  | item :: items => item.anchored ++ anchoredItems items

def anchoredEntries : List (Node × Node) → List (Nat × Node)
  | [] => []
  | entry :: entries => anchoredEntry entry ++ anchoredEntries entries

def anchoredEntry : Node × Node → List (Nat × Node)
  | (key, value) => key.anchored ++ value.anchored
end

/-! ## Reading a node -/

/-- What the handles of tags stand for. -/
abbrev Handles := List (String × String)

/-- The handles that are known without a directive. -/
def knownHandles : Handles := [("!", "!"), ("!!", "tag:yaml.org,2002:")]

/-- The tokens that are left, and the numbers of the anchors so far. -/
structure Feed where
  tokens : List Token
  anchors : List (String × Nat)

abbrev Reading := StateT Feed Option

/-- The next token. -/
def next? : Reading (Option Token) := do return (← get).tokens.head?

/-- Past the next token. -/
def advance : Reading Unit := modify fun feed => { feed with tokens := feed.tokens.drop 1 }

/-- Past the next token if it is the given one. -/
def takes (token : Token) : Reading Bool := do
  if (← next?) == some token then
    advance
    return true
  else return false

/-- Past a token that has to come next. -/
def expect (token : Token) : Reading Unit := do
  if !(← takes token) then failure

/-- **The number of a new anchor**: how many names there were before it. A
name that comes again does not count again. -/
def numberAnchor (name : String) : Reading Nat := do
  let feed ← get
  let number := feed.anchors.length
  set { feed with anchors := (name, number) :: feed.anchors.filter (·.1 != name) }
  return number

/-- What an alias refers to. -/
def targetOf (name : String) : Reading Nat := do
  match (← get).anchors.lookup name with
  | some number => return number
  | none => failure

/-- A tag with what its handle stands for. -/
def expandTag (handles : Handles) (handle suffix : String) : Reading String :=
  if handle.isEmpty then return suffix
  else
    match handles.lookup handle with
    | some expansion => return expansion ++ suffix
    | none => failure

def readAnchor? : Reading (Option Nat) := do
  match ← next? with
  | some (.anchor name) =>
    advance
    return some (← numberAnchor name)
  | _ => return none

def readTag? (handles : Handles) : Reading (Option String) := do
  match ← next? with
  | some (.tag handle suffix) =>
    advance
    return some (← expandTag handles handle suffix)
  | _ => return none

/-- The anchor and the tag before a node, in either order. -/
def readProperties (handles : Handles) : Reading (Option Nat × Option String) := do
  match ← readAnchor? with
  | some anchor => return (some anchor, ← readTag? handles)
  | none =>
    let tag ← readTag? handles
    match tag with
    | some _ => return (← readAnchor?, tag)
    | none => return (none, none)

/-- **Where a node stands.** -/
inductive Place where
  /-- Behind a dash, or alone in a document. -/
  | entry
  /-- In a mapping; the dashes of a sequence may stand as far left as the
  key. -/
  | member
  /-- In a flow collection. -/
  | flow
  deriving DecidableEq, Repr

/-- Whether a node is left out before a token. -/
def Place.omits : Place → Token → Bool
  | .entry, token => [.blockEntry, .key, .value, .blockEnd].contains token
  | .member, token => [.key, .value, .blockEnd].contains token
  | .flow, token => [.value, .flowEntry, .flowSequenceEnd, .flowMappingEnd].contains token

/-- A node that may be left out. -/
def orEmpty (place : Place) (read : Reading Node) : Reading Node := do
  if (← next?).any place.omits then return empty else read

/-- The value behind a key, with its colon. -/
def readValueWith (place : Place) (read : Reading Node) : Reading Node := do
  if ← takes .value then orEmpty place read else return empty

mutual
/-- **A node**, and all that is in it. The number bounds how deep the reading
goes: two steps for a token are enough. -/
def read (handles : Handles) : Nat → Place → Reading Node
  | 0, _ => failure
  | fuel + 1, place => do
    match ← next? with
    | some (.alias name) =>
      advance
      return .alias (← targetOf name)
    | _ =>
      let (anchor, tag) ← readProperties handles
      let token ← next?
      match token, place with
      | some (.scalar text style), _ =>
        advance
        return .scalar anchor (tag.filter (· != "!")) text style
      | some .flowSequence, _ =>
        advance
        return .sequence anchor (← readFlowItems handles fuel true)
      | some .flowMapping, _ =>
        advance
        return .mapping anchor (← readFlowEntries handles fuel true)
      | some .blockEntry, .member =>
        return .sequence anchor (← readItems handles fuel)
      | some .blockSequence, .entry | some .blockSequence, .member =>
        advance
        let items ← readItems handles fuel
        expect .blockEnd
        return .sequence anchor items
      | some .blockMapping, .entry | some .blockMapping, .member =>
        advance
        let entries ← readEntries handles fuel
        expect .blockEnd
        return .mapping anchor entries
      | _, _ => if anchor.isSome || tag.isSome then return .scalar anchor tag "" .plain else failure

/-- The items behind dashes. -/
def readItems (handles : Handles) : Nat → Reading (List Node)
  | 0 => failure
  | fuel + 1 => do
    if ← takes .blockEntry then
      let item ← orEmpty .entry (read handles fuel .entry)
      return item :: (← readItems handles fuel)
    else return []

/-- The entries of a mapping. -/
def readEntries (handles : Handles) : Nat → Reading (List (Node × Node))
  | 0 => failure
  | fuel + 1 => do
    if ← takes .key then
      let key ← orEmpty .member (read handles fuel .member)
      let value ← readValueWith .member (read handles fuel .member)
      return (key, value) :: (← readEntries handles fuel)
    else return []

/-- The items of a flow sequence and its end. An entry of a mapping may
stand for a mapping with that entry. -/
def readFlowItems (handles : Handles) : Nat → Bool → Reading (List Node)
  | 0, _ => failure
  | fuel + 1, first => do
    if ← takes .flowSequenceEnd then return []
    if !first then expect .flowEntry
    if ← takes .flowSequenceEnd then return []
    else if ← takes .key then
      let key ← orEmpty .flow (read handles fuel .flow)
      let value ← readValueWith .flow (read handles fuel .flow)
      return .mapping none [(key, value)] :: (← readFlowItems handles fuel false)
    else
      let item ← read handles fuel .flow
      return item :: (← readFlowItems handles fuel false)

/-- The entries of a flow mapping and its end. A key may stand alone. -/
def readFlowEntries (handles : Handles) : Nat → Bool → Reading (List (Node × Node))
  | 0, _ => failure
  | fuel + 1, first => do
    if ← takes .flowMappingEnd then return []
    if !first then expect .flowEntry
    if ← takes .flowMappingEnd then return []
    else if ← takes .key then
      let key ← orEmpty .flow (read handles fuel .flow)
      let value ← readValueWith .flow (read handles fuel .flow)
      return (key, value) :: (← readFlowEntries handles fuel false)
    else
      let key ← read handles fuel .flow
      return (key, empty) :: (← readFlowEntries handles fuel false)
end

/-- The node at the root of a document, which may be left out if the
document has a mark before it. -/
def readRoot (handles : Handles) (marked : Bool) (tokens : List Token) : Option (Node × Feed) :=
  let feed : Feed := ⟨tokens, []⟩
  if marked && tokens.head?.all (· == .documentEnd) then some (empty, feed)
  else (read handles (2 * tokens.length + 2) .entry).run feed

end Node

/-! ## Documents -/

/-- The directives before a document: at most one version, which has to be
1.1 or 1.2, and the handles, none of them twice. -/
def readDirectives : (versioned : Bool) → Node.Handles → List Token →
    Option (Node.Handles × List Token)
  | versioned, handles, .version major minor :: rest =>
    if versioned || major != 1 || !(minor == 1 || minor == 2) then none
    else readDirectives true handles rest
  | versioned, handles, .tagDirective handle expansion :: rest =>
    if (handles.lookup handle).isSome then none
    else readDirectives versioned (handles ++ [(handle, expansion)]) rest
  | _, handles, rest => some (handles, rest)

/-- **A document**: its root and the nodes with anchors. -/
structure Document where
  root : Node
  anchored : List (Nat × Node)
  deriving Repr

namespace Document

/-- **The document that tokens make up**, if nothing comes after it. -/
def ofTokens? (tokens : List Token) : Option Document := do
  if tokens.isEmpty then return ⟨.empty, []⟩
  else
    let (handles, rest) ← readDirectives false [] tokens
    let marked := rest.head? == some .documentStart
    if !marked && rest.length < tokens.length then none
    else
      let (root, left) ← Node.readRoot (handles ++ Node.knownHandles) marked
        (if marked then rest.drop 1 else rest)
      if left.tokens.all (· == .documentEnd) then return ⟨root, root.anchored⟩ else none

/-- **The document in a text.** -/
def parse? (s : String) : Option Document := tokens? s >>= ofTokens?

/-- The node that is meant: what an alias stands for, or the node itself. Of
nodes with one number the last counts. -/
def resolve (doc : Document) : Node → Node
  | .alias target => (doc.anchored.reverse.lookup target).getD .empty
  | node => node

end Document

end LedgerNet.Yaml
