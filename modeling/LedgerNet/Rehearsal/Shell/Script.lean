/-!
# Scripts of a POSIX shell

A script is a text. It is cut into words and operators first, and these are
put together to commands: lists, pipelines, groups, conditions and loops. A
word keeps the parts that get their value only when it is used – parameters,
sums, and the output of other scripts – and whether any of it was quoted,
since a quoted word is never a keyword.

A script inside a word stays a text until the word is used; so words need
not know what scripts are.
-/

namespace LedgerNet.Shell

/-! ## Words -/

/-- **A part of a word.** -/
inductive Part where
  | literal (cs : List Char)
  /-- The value of a parameter. -/
  | parameter (name : String) (quoted : Bool)
  /-- The value of an arithmetic expression. -/
  | number (expression : List Char)
  /-- What another script prints. -/
  | output (script : List Char) (quoted : Bool)
  deriving Repr

/-- **A word**: its parts, and whether any of it was quoted. -/
structure Word where
  parts : List Part
  quoted : Bool
  deriving Repr

/-- The text of a word that is nothing but letters as they stand. -/
def Word.plain? (w : Word) : Option String :=
  if w.quoted then none
  else
    (w.parts.mapM literal?).map fun parts => String.ofList parts.flatten
where
  literal? : Part → Option (List Char)
    | .literal cs => some cs
    | _ => none

inductive Token where
  | word (word : Word)
  | operator (text : String)
  /-- The beginning of a redirection: the descriptor that is redirected, and
  the operator. -/
  | redirection (descriptor : Nat) (operator : String)
  deriving Repr

/-- **Why a script cannot be run.** -/
inductive ScriptError where
  | openQuote
  /-- Something stands where it cannot, and what should stand there if that
  is one thing only; without the first, the script ends too early. -/
  | unexpected (found expected : Option String)
  deriving Repr

/-- The line that tells of it. -/
def ScriptError.message : ScriptError → String
  | openQuote => "sh: 1: Syntax error: Unterminated quoted string"
  | unexpected found expected =>
    let what := match found with
      | some text => "\"" ++ text ++ "\""
      | none => "end of file"
    let wanted := match expected with
      | some text => " (expecting \"" ++ text ++ "\")"
      | none => ""
    "sh: 1: Syntax error: " ++ what ++ " unexpected" ++ wanted

/-! ## From a text to words -/

/-- The text up to the bracket that closes, and what follows it. -/
def enclosed : Nat → List Char → List Char × List Char
  | _, [] => ([], [])
  | depth, c :: rest =>
    if c = ')' then
      match depth with
      | 0 => ([], rest)
      | depth + 1 =>
        let (inside, after) := enclosed depth rest
        (c :: inside, after)
    else
      let (inside, after) := enclosed (if c = '(' then depth + 1 else depth) rest
      (c :: inside, after)

theorem length_enclosed_le (depth : Nat) (cs : List Char) :
    (enclosed depth cs).2.length ≤ cs.length := by
  fun_induction enclosed depth cs <;> simp_all <;> omega

/-- A character of the names of parameters. -/
def isNameChar (c : Char) : Bool := c.isAlphanum || c == '_'

/-- What stands after a dollar sign, as far as it names a value, and the rest;
a dollar sign before anything else is only that. -/
def value? (quoted : Bool) : List Char → Option (Part × List Char)
  | '(' :: '(' :: rest =>
    let (inside, after) := enclosed 1 rest
    some (.number inside.dropLast, after)
  | '(' :: rest =>
    let (inside, after) := enclosed 0 rest
    some (.output inside quoted, after)
  | '{' :: rest =>
    some (.parameter (String.ofList (rest.takeWhile (· != '}'))) quoted,
      (rest.dropWhile (· != '}')).drop 1)
  | c :: rest =>
    if c.isAlpha || c == '_' then
      some (.parameter (String.ofList (c :: rest.takeWhile isNameChar)) quoted,
        rest.dropWhile isNameChar)
    else if c.isDigit || "?$#@*!-".toList.contains c then
      some (.parameter (String.singleton c) quoted, rest)
    else none
  | [] => none

theorem length_value?_le {quoted : Bool} {cs : List Char} {part : Part} {rest : List Char}
    (h : value? quoted cs = some (part, rest)) : rest.length ≤ cs.length := by
  have enclosed_le (depth : Nat) (more : List Char) := length_enclosed_le depth more
  have dropped_le (p : Char → Bool) (more : List Char) :=
    (List.dropWhile_sublist (l := more) p).length_le
  unfold value? at h
  split at h
  · rename_i more
    obtain ⟨-, rfl⟩ := Prod.mk.inj (Option.some.inj h)
    have := enclosed_le 1 more
    simp only [List.length_cons]
    omega
  · rename_i more _
    obtain ⟨-, rfl⟩ := Prod.mk.inj (Option.some.inj h)
    have := enclosed_le 0 more
    simp only [List.length_cons]
    omega
  · rename_i more
    obtain ⟨-, rfl⟩ := Prod.mk.inj (Option.some.inj h)
    have := dropped_le (· != '}') more
    simp only [List.length_cons, List.length_drop]
    omega
  · rename_i c more _ _ _
    have := dropped_le isNameChar more
    split at h
    · obtain ⟨-, rfl⟩ := Prod.mk.inj (Option.some.inj h)
      simp only [List.length_cons]
      omega
    · split at h
      · obtain ⟨-, rfl⟩ := Prod.mk.inj (Option.some.inj h)
        simp
      · simp at h
  · simp at h

/-- Where the reader of a script stands. -/
inductive Quote where
  | none
  | single
  | double

/-- What a reader has read: the tokens, the last one first, and the word it
is in, its last part first. -/
structure Reader where
  tokens : List Token
  word : Option Word

namespace Reader

def start : Reader := ⟨[], none⟩

/-- A part more in the word. -/
def push (r : Reader) (part : Part) (quoted : Bool) : Reader :=
  let word := r.word.getD ⟨[], false⟩
  { r with word := some ⟨part :: word.parts, word.quoted || quoted⟩ }

/-- The end of the word, if there is one. -/
def closed (r : Reader) : Reader :=
  match r.word with
  | some word => ⟨.word { word with parts := word.parts.reverse } :: r.tokens, none⟩
  | none => r

/-- An operator after the word. -/
def emit (r : Reader) (text : String) : Reader :=
  { r.closed with tokens := .operator text :: r.closed.tokens }

/-- A redirection; a number right before it is the descriptor. -/
def redirect (r : Reader) (text : String) (usual : Nat) : Reader :=
  let here := (r.word.bind Word.plain?).bind fun s => s.toNat?
  match here with
  | some descriptor => ⟨.redirection descriptor text :: r.tokens, none⟩
  | none => { r.closed with tokens := .redirection usual text :: r.closed.tokens }

end Reader

/-- **Cuts a script into words and operators.** -/
def read (r : Reader) (quote : Quote) (cs : List Char) : Except ScriptError (List Token) :=
  match quote, cs with
  | .none, [] => .ok r.closed.tokens.reverse
  | _, [] => .error .openQuote
  | .single, '\'' :: rest => read r .none rest
  | .single, c :: rest => read (r.push (.literal [c]) true) .single rest
  | .double, '"' :: rest => read r .none rest
  | .double, '\\' :: c :: rest =>
    let kept := if "\"\\$\x60".toList.contains c then [c] else if c = '\n' then [] else ['\\', c]
    read (r.push (.literal kept) true) .double rest
  | quote, '$' :: rest =>
    let quoted := match quote with
      | .double => true
      | _ => false
    match h : value? quoted rest with
    | some (part, after) =>
      have := length_value?_le h
      read (r.push part quoted) quote after
    | none => read (r.push (.literal ['$']) quoted) quote rest
  | .double, '\x60' :: rest =>
    read (r.push (.output (rest.takeWhile (· != '\x60')) true) true) .double
      ((rest.dropWhile (· != '\x60')).drop 1)
  | .none, '\x60' :: rest =>
    read (r.push (.output (rest.takeWhile (· != '\x60')) false) false) .none
      ((rest.dropWhile (· != '\x60')).drop 1)
  | .double, c :: rest => read (r.push (.literal [c]) true) .double rest
  | .none, '\\' :: '\n' :: rest => read r .none rest
  | .none, '\\' :: c :: rest => read (r.push (.literal [c]) true) .none rest
  | .none, '\'' :: rest => read (r.push (.literal []) true) .single rest
  | .none, '"' :: rest => read (r.push (.literal []) true) .double rest
  | .none, '&' :: '&' :: rest => read (r.emit "&&") .none rest
  | .none, '|' :: '|' :: rest => read (r.emit "||") .none rest
  | .none, ';' :: ';' :: rest => read (r.emit ";;") .none rest
  | .none, '>' :: '&' :: rest => read (r.redirect ">&" 1) .none rest
  | .none, '>' :: '>' :: rest => read (r.redirect ">" 1) .none rest
  | .none, c :: rest =>
    if c = '>' then read (r.redirect ">" 1) .none rest
    else if c = '<' then read (r.redirect "<" 0) .none rest
    else if c = '\n' then read (r.emit ";") .none rest
    else if "|;&()".toList.contains c then read (r.emit (String.singleton c)) .none rest
    else if c = ' ' ∨ c = '\t' then read r.closed .none rest
    else if c = '#' ∧ r.word.isNone then read r .none (rest.dropWhile (· != '\n'))
    else read (r.push (.literal [c]) false) .none rest
termination_by cs.length
decreasing_by
  all_goals simp_wf
  all_goals try omega
  · have := (List.dropWhile_sublist (l := rest) (· != '\x60')).length_le
    omega
  · have := (List.dropWhile_sublist (l := rest) (· != '\x60')).length_le
    omega
  · have := (List.dropWhile_sublist (l := rest) (· != '\n')).length_le
    omega

/-! ## From words to commands -/

/-- A redirection: the descriptor, the operator, and the word that says
where to. -/
structure Redirection where
  descriptor : Nat
  operator : String
  target : Word
  deriving Repr

/-- **A script.** -/
inductive Script where
  | nothing
  /-- A simple command: values for parameters, and words, the first of which
  names what is to be done. -/
  | command (values : List (String × Word)) (words : List Word)
  | redirected (script : Script) (redirections : List Redirection)
  | pipe (first second : Script)
  | seq (first second : Script)
  /-- The second only if the first went well, or only if it did not. -/
  | thenIf (well : Bool) (first second : Script)
  | negated (script : Script)
  /-- A script in a shell of its own. -/
  | apart (script : Script)
  | choose (condition yes no : Script)
  /-- The body again and again, as long as the condition goes well, or as
  long as it does not. -/
  | loop (well : Bool) (condition body : Script)
  /-- The body once for each word. -/
  | each (name : String) (words : List Word) (body : Script)
  deriving Repr

/-- A value for a parameter, if a word is that: a name and an equals sign
before anything that is quoted or has a value of its own. -/
def assignment? (w : Word) : Option (String × Word) :=
  let letters := w.parts.takeWhile fun
    | .literal _ => true
    | _ => false
  let text := letters.flatMap fun
    | .literal cs => cs
    | _ => []
  let name := text.takeWhile isNameChar
  let rest := text.drop name.length
  if rest.head? = some '=' ∧ name.head?.any (fun c => c.isAlpha || c == '_') then
    some (String.ofList name, ⟨.literal (rest.drop 1) :: w.parts.drop letters.length, true⟩)
  else none

/-- What a token is called when it stands where it cannot. -/
def Token.shown : Token → String
  | word w => w.plain?.getD "word"
  | operator text => if text == ";" then ";" else text
  | redirection _ _ => "redirection"

/-- What was read from the front, and the tokens that follow. -/
abbrev Parsed := Except ScriptError (Script × List Token)

/-- The next token is none that can stand here. -/
def refuse {α : Type} (tokens : List Token) (expected : Option String) : Except ScriptError α :=
  .error (.unexpected (tokens.head?.map Token.shown) expected)

/-- A keyword, and what follows it. -/
def keyword? (tokens : List Token) : Option String :=
  match tokens with
  | .word w :: _ => w.plain?
  | _ => none

/-- Past a keyword that has to stand here. -/
def expectWord (name : String) (tokens : List Token) : Except ScriptError (List Token) :=
  if keyword? tokens = some name then .ok (tokens.drop 1) else refuse tokens (some name)

/-- The keywords that end what stands before them. -/
def closers : List String := ["then", "else", "elif", "fi", "do", "done", "\x7d"]

/-- Past the ends of commands. -/
def skipEnds : List Token → List Token
  | .operator ";" :: rest => skipEnds rest
  | tokens => tokens

/-- Redirections at the front. -/
def redirections : List Token → List Redirection × List Token
  | .redirection descriptor operator :: .word target :: rest =>
    let (more, after) := redirections rest
    (⟨descriptor, operator, target⟩ :: more, after)
  | tokens => ([], tokens)

/-- The words and redirections of a simple command. -/
def simple : List Token → List Word × List Redirection × List Token
  | .word w :: rest =>
    let (words, redirections, after) := simple rest
    (w :: words, redirections, after)
  | .redirection descriptor operator :: .word target :: rest =>
    let (words, redirections, after) := simple rest
    (words, ⟨descriptor, operator, target⟩ :: redirections, after)
  | tokens => ([], [], tokens)

/-- The values that stand before the words of a command. -/
def values : List Word → List (String × Word) × List Word
  | w :: rest =>
    match assignment? w with
    | some value =>
      let (more, words) := values rest
      (value :: more, words)
    | none => ([], w :: rest)
  | [] => ([], [])

/-- A script with redirections, if there are any. -/
def Script.redirecting (script : Script) (redirections : List Redirection) : Script :=
  if redirections.isEmpty then script else .redirected script redirections

/-- A simple command. -/
def parseSimple (tokens : List Token) : Script × List Token :=
  let (words, targets, rest) := simple tokens
  let (named, words) := values words
  (Script.redirecting (.command named words) targets, rest)

mutual

/-- A list of commands, as far as it goes. -/
def parseList : Nat → List Token → Parsed
  | 0, tokens => refuse tokens none
  | fuel + 1, tokens =>
    let tokens := skipEnds tokens
    if tokens.isEmpty ∨ (keyword? tokens).any closers.contains then .ok (.nothing, tokens)
    else do
      let (first, rest) ← parsePipeline fuel tokens
      let (first, rest) ← parseThen fuel first rest
      match rest with
      | .operator ";" :: rest | .operator "&" :: rest =>
        let (second, rest) ← parseList fuel rest
        return (.seq first second, rest)
      | _ => return (first, rest)

/-- What follows a pipeline that the list goes on with. -/
def parseThen : Nat → Script → List Token → Parsed
  | 0, _, tokens => refuse tokens none
  | fuel + 1, first, tokens =>
    match tokens with
    | .operator "&&" :: rest => do
      let (second, rest) ← parsePipeline fuel (skipEnds rest)
      parseThen fuel (.thenIf true first second) rest
    | .operator "||" :: rest => do
      let (second, rest) ← parsePipeline fuel (skipEnds rest)
      parseThen fuel (.thenIf false first second) rest
    | _ => .ok (first, tokens)

/-- A pipeline. -/
def parsePipeline : Nat → List Token → Parsed
  | 0, tokens => refuse tokens none
  | fuel + 1, tokens =>
    if keyword? tokens = some "!" then do
      let (script, rest) ← parsePipeline fuel (tokens.drop 1)
      return (.negated script, rest)
    else do
      let (first, rest) ← parseCommand fuel tokens
      match rest with
      | .operator "|" :: rest => do
        let (second, rest) ← parsePipeline fuel (skipEnds rest)
        return (.pipe first second, rest)
      | _ => return (first, rest)

/-- A command: a group, a condition, a loop or a simple one. -/
def parseCommand : Nat → List Token → Parsed
  | 0, tokens => refuse tokens none
  | fuel + 1, tokens =>
    match tokens, keyword? tokens with
    | .operator "(" :: rest, _ => do
      let (script, rest) ← parseList fuel rest
      match rest with
      | .operator ")" :: rest =>
        let (targets, rest) := redirections rest
        return (Script.redirecting (.apart script) targets, rest)
      | _ => refuse rest (some ")")
    | _, some "\x7b" => do
      let (script, rest) ← parseList fuel (tokens.drop 1)
      let rest ← expectWord "\x7d" rest
      let (targets, rest) := redirections rest
      return (Script.redirecting script targets, rest)
    | _, some "if" => parseChoice fuel (tokens.drop 1)
    | _, some "while" => parseLoop fuel true (tokens.drop 1)
    | _, some "until" => parseLoop fuel false (tokens.drop 1)
    | _, some "for" =>
      match tokens.drop 1 with
      | .word name :: rest => do
        let rest ← expectWord "in" rest
        let (words, _, rest) := simple rest
        let (body, rest) ← parseBody fuel (skipEnds rest)
        let (targets, rest) := redirections rest
        return (Script.redirecting (.each (name.plain?.getD "") words body) targets, rest)
      | rest => refuse rest none
    | _, some word =>
      if closers.contains word then refuse tokens none else .ok (parseSimple tokens)
    | .word _ :: _, none | .redirection _ _ :: .word _ :: _, none => .ok (parseSimple tokens)
    | _, _ => refuse tokens none

/-- What follows the word that begins a condition. -/
def parseChoice : Nat → List Token → Parsed
  | 0, tokens => refuse tokens none
  | fuel + 1, tokens => do
    let (condition, rest) ← parseList fuel tokens
    let rest ← expectWord "then" rest
    let (yes, rest) ← parseList fuel rest
    match keyword? rest with
    | some "elif" =>
      let (no, rest) ← parseChoice fuel (rest.drop 1)
      return (.choose condition yes no, rest)
    | some "else" =>
      let (no, rest) ← parseList fuel (rest.drop 1)
      let rest ← expectWord "fi" rest
      let (targets, rest) := redirections rest
      return (Script.redirecting (.choose condition yes no) targets, rest)
    | _ =>
      let rest ← expectWord "fi" rest
      let (targets, rest) := redirections rest
      return (Script.redirecting (.choose condition yes .nothing) targets, rest)

/-- What follows the word that begins a loop. -/
def parseLoop : Nat → Bool → List Token → Parsed
  | 0, _, tokens => refuse tokens none
  | fuel + 1, well, tokens => do
    let (condition, rest) ← parseList fuel tokens
    let (body, rest) ← parseBody fuel rest
    let (targets, rest) := redirections rest
    return (Script.redirecting (.loop well condition body) targets, rest)

/-- The body of a loop. -/
def parseBody : Nat → List Token → Parsed
  | 0, tokens => refuse tokens none
  | fuel + 1, tokens => do
    let rest ← expectWord "do" tokens
    let (body, rest) ← parseList fuel rest
    let rest ← expectWord "done" rest
    return (body, rest)

end

/-- **Reads a script.** Each step past a token takes a handful of calls. -/
def parse (script : List Char) : Except ScriptError Script := do
  let tokens ← read .start .none script
  let (parsed, rest) ← parseList (8 * tokens.length + 8) tokens
  if rest.isEmpty then return parsed else refuse rest none

end LedgerNet.Shell
