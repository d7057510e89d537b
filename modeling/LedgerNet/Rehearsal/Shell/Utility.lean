import LedgerNet.Duration
import LedgerNet.Files
import LedgerNet.Rehearsal.Shell.Format
import LedgerNet.Text.Blank

/-!
# Utilities of a shell

The programs that scripts call: each takes its arguments and what stands on
its input, and comes to an effect. What flows from one to the next may never
end – a utility that prints the same line again and again is one of them –
and a utility that wants the end of such a stream never ends either.
-/

namespace LedgerNet.Shell

/-! ## Streams -/

/-- **Bytes that may go on for ever**: some bytes, and what is repeated after
them; a stream without such a part ends. -/
structure Stream where
  bytes : List UInt8
  forever : List UInt8
  deriving Repr

namespace Stream

def empty : Stream := ⟨[], []⟩

def ofBytes (bytes : List UInt8) : Stream := ⟨bytes, []⟩

/-- A text again and again. -/
def repeating (bytes : List UInt8) : Stream := ⟨[], bytes⟩

def isEndless (s : Stream) : Bool := !s.forever.isEmpty

def isEmpty (s : Stream) : Bool := s.bytes.isEmpty && !s.isEndless

/-- The stream as far as a number of rounds of what is repeated. -/
def unrolled (s : Stream) (rounds : Nat) : List UInt8 :=
  s.bytes ++ (List.replicate rounds s.forever).flatten

/-- The first bytes. -/
def take (s : Stream) (n : Nat) : List UInt8 := (s.unrolled n).take n

/-- Each byte changed. -/
def map (f : UInt8 → UInt8) (s : Stream) : Stream := ⟨s.bytes.map f, s.forever.map f⟩

/-- The bytes of some kind. -/
def filter (p : UInt8 → Bool) (s : Stream) : Stream := ⟨s.bytes.filter p, s.forever.filter p⟩

/-- One stream after another, if the first one ends. -/
def append (s t : Stream) : Stream := if s.isEndless then s else ⟨s.bytes ++ t.bytes, t.forever⟩

end Stream

/-- The first lines of some bytes. -/
def firstLines : Nat → List UInt8 → List UInt8
  | 0, _ => []
  | _, [] => []
  | n + 1, b :: rest => b :: firstLines (if b = 10 then n else n + 1) rest

/-- The number of words: of stretches without blanks. -/
def countWords : Bool → List UInt8 → Nat
  | _, [] => 0
  | inside, b :: rest =>
    if b = 32 ∨ (9 ≤ b ∧ b ≤ 13) then countWords false rest
    else (if inside then 0 else 1) + countWords true rest

/-! ## Effects -/

/-- **What a utility comes to**: how long it takes, what it prints and the
code it ends with. -/
structure Effect where
  code : Nat
  output : Stream
  errors : List UInt8
  pause : Duration

namespace Effect

def ofCode (code : Nat) : Effect := ⟨code, .empty, [], .zero⟩

def printing (s : Stream) : Effect := { ofCode 0 with output := s }

/-- An end with a word about what went wrong. -/
def failing (code : Nat) (line : String) : Effect :=
  { ofCode code with errors := Text.utf8Bytes (line ++ "\n") }

/-- No end at all. -/
def never : Effect := { ofCode 0 with pause := ⟨Duration.limit⟩ }

/-- A number on a line. -/
def line (n : Nat) : Effect := printing (.ofBytes (Text.utf8Bytes (toString n ++ "\n")))

end Effect

/-! ## Files -/

/-- The places that every machine has, as far as somebody may take them for
programs. -/
def usualFiles : FileSystem :=
  let directories := ["bin", "dev", "etc", "home", "lib", "opt", "proc", "root", "run", "sbin",
    "srv", "sys", "tmp", "usr", "var", "usr/bin", "usr/lib", "usr/sbin", "usr/share", "usr/local",
    "var/log", "var/tmp"]
  let files := ["etc/passwd", "etc/hosts", "etc/hostname", "etc/group", "etc/resolv.conf",
    "dev/null", "dev/zero"]
  let made := directories.foldl (fun fs path => (fs.makeDirectories path).2) .empty
  files.foldl (fun fs path => (fs.write path []).toOption.getD fs) made

/-- What stands in the files that are named, the input for a dash or if none
is named, and a word about each that cannot be read; programs differ in how
they speak of it. -/
def contents (program : String) (input : Stream) (quoted : Bool) :
    List String → Stream × List String
  | [] => (input, [])
  | name :: more =>
    let (after, words) :=
      if more.isEmpty then (Stream.empty, []) else contents program input quoted more
    let shown := if quoted then "cannot open '" ++ name ++ "' for reading" else name
    let refused (why : String) := (after, (program ++ ": " ++ shown ++ ": " ++ why) :: words)
    if name = "-" then (input.append after, words)
    else if name = "/dev/zero" then (.repeating [0], words)
    else if usualFiles.isDirectory (Path.names name) then refused "Is a directory"
    else match usualFiles.read name with
      | .ok bytes => ((Stream.ofBytes bytes).append after, words)
      | .error _ => refused "No such file or directory"

/-! ## Arguments -/

/-- A time to wait: whole seconds, or seconds and a part of one, perhaps with
the letter of a unit. -/
def pause? (text : String) : Option Duration :=
  let cs := text.toList
  let whole := cs.takeWhile Char.isDigit
  let rest := cs.drop whole.length
  let part := if rest.head? = some '.' then (rest.drop 1).takeWhile Char.isDigit else []
  let rest := if rest.head? = some '.' then rest.drop (part.length + 1) else rest
  let unit? : Option Nat := match rest with
    | [] | ['s'] => some 1
    | ['m'] => some 60
    | ['h'] => some 3600
    | ['d'] => some 86400
    | _ => none
  if text == "infinity" then some ⟨Duration.limit⟩
  else if whole.isEmpty ∧ part.isEmpty then none
  else do
    let unit ← unit?
    let part := part.take 9
    let seconds := (Text.digits? 10 whole).getD 0
    let fraction := (Text.digits? 10 part).getD 0
    return ⟨unit * (seconds * Duration.nanosPerSecond + fraction * 10 ^ (9 - part.length))⟩

/-- A whole number, with a sign or without. -/
def number? (text : String) : Option Int := Text.signed? (2 ^ 63) (Text.trim text).toList

/-- The bytes that a set of characters names: characters, escapes, and
ranges. -/
def setOf (text : String) : List UInt8 :=
  ranges (formatAll (text.toList.flatMap fun c => if c = '%' then ['%', '%'] else [c]) [])
where
  ranges : List UInt8 → List UInt8
    | low :: 45 :: high :: rest =>
      (List.range (high.toNat + 1 - low.toNat)).map (fun i => UInt8.ofNat (low.toNat + i))
        ++ ranges rest
    | b :: rest => b :: ranges rest
    | [] => []

/-- The byte that stands in the second set where a byte stands in the first;
the last one of the second set stands for all that are missing. -/
def exchange (first second : List UInt8) (b : UInt8) : UInt8 :=
  match first.idxOf? b with
  | some i => second.getD i (second.getLast?.getD b)
  | none => b

/-- How much of its input a utility is to pass on: a number of bytes or of
lines, and the files. -/
def amount? : List String → Option (Bool × Nat × List String)
  | "-c" :: n :: files => n.toNat?.map (true, ·, files)
  | "-n" :: n :: files => n.toNat?.map (false, ·, files)
  | option :: files =>
    match option.toList with
    | '-' :: 'c' :: digits => (Text.digits? 10 digits).map (true, ·, files)
    | '-' :: 'n' :: digits | '-' :: digits => (Text.digits? 10 digits).map (false, ·, files)
    | _ => some (false, 10, option :: files)
  | [] => some (false, 10, [])

/-- **Whether a condition on texts, numbers or files holds**, or why it is
none. -/
def holds : List String → Except String Bool
  | [] => .ok false
  | [text] => .ok (text != "")
  | "!" :: condition => (holds condition).map (!·)
  | ["-n", text] => .ok (text != "")
  | ["-z", text] => .ok (text == "")
  | ["-t", _] | ["-s", _] => .ok false
  | ["-d", name] => .ok (usualFiles.isDirectory (Path.names name))
  | ["-f", name] => .ok (usualFiles.read name).toOption.isSome
  | ["-e", name] | ["-r", name] | ["-w", name] | ["-x", name] =>
    .ok (usualFiles.isDirectory (Path.names name) || (usualFiles.read name).toOption.isSome)
  | [a, "=", b] => .ok (a == b)
  | [a, "!=", b] => .ok (a != b)
  | [a, relation, b] => do
    let compare ← match relation with
      | "-eq" => .ok fun (a b : Int) => a == b
      | "-ne" => .ok fun a b => a != b
      | "-lt" => .ok fun a b => decide (a < b)
      | "-le" => .ok fun a b => decide (a ≤ b)
      | "-gt" => .ok fun a b => decide (a > b)
      | "-ge" => .ok fun a b => decide (a ≥ b)
      | _ => .error (relation ++ ": unexpected operator")
    return compare (← number a) (← number b)
  | first :: _ => .error (first ++ ": unexpected operator")
where
  number (text : String) : Except String Int :=
    match number? text with
    | some n => .ok n
    | none => .error ("Illegal number: " ++ text)

/-- The numbers from one to another, by a step. -/
def countFrom (first step last : Int) : List Int :=
  if step > 0 then
    (List.range ((last - first) / step + 1).toNat).map fun (i : Nat) => first + step * i
  else if step < 0 then
    (List.range ((first - last) / -step + 1).toNat).map fun (i : Nat) => first + step * i
  else []

/-! ## The utilities -/

/-- **The utilities**, by their names. -/
def utility? (input : Stream) : List String → Option Effect
  | "true" :: _ | ":" :: _ => some (.ofCode 0)
  | "cd" :: _ | "umask" :: _ | "ulimit" :: _ | "trap" :: _ | "wait" :: _ => some (.ofCode 0)
  | "false" :: _ => some (.ofCode 1)
  | "echo" :: words => some (.printing (.ofBytes (echoed words)))
  | ["printf"] => some (.failing 2 "sh: 1: printf: usage: printf format [arg ...]")
  | "printf" :: "--" :: pattern :: arguments | "printf" :: pattern :: arguments =>
    some (.printing (.ofBytes (formatAll pattern.toList arguments)))
  | "yes" :: words =>
    let line := if words.isEmpty then "y" else String.intercalate " " words
    some (.printing (.repeating (Text.utf8Bytes (line ++ "\n"))))
  | "cat" :: files =>
    let (stream, words) := contents "cat" input false files
    some { told words with output := stream }
  | "head" :: arguments => do
    let (bytewise, n, files) ← amount? arguments
    let (stream, words) := contents "head" input true files
    let kept := if bytewise then stream.take n else firstLines n (stream.unrolled n)
    return { told words with output := .ofBytes kept }
  | "tail" :: arguments => do
    let (bytewise, n, files) ← amount? arguments
    let (stream, words) := contents "tail" input true files
    let backwards := stream.bytes.reverse
    let kept := if bytewise then backwards.take n
      else backwards.take 1 ++ lastLines n (backwards.drop 1)
    let kept := if n = 0 then [] else kept.reverse
    return waiting stream { told words with output := .ofBytes kept }
  | "wc" :: option :: files => do
    let (stream, words) := contents "wc" input false files
    let count ← match option with
      | "-c" | "-m" => some stream.bytes.length
      | "-l" => some (stream.bytes.count 10)
      | "-w" => some (countWords false stream.bytes)
      | _ => none
    return waiting stream { Effect.line count with errors := (told words).errors }
  | ["tr", "-d", set] => some (.printing (input.filter fun b => !(setOf set).contains b))
  | ["tr", first, second] =>
    some (.printing (input.map (exchange (setOf first) (setOf second))))
  | "seq" :: bounds => do
    let bounds ← bounds.mapM number?
    let numbers ← match bounds with
      | [last] => some (countFrom 1 1 last)
      | [first, last] => some (countFrom first 1 last)
      | [first, step, last] => some (countFrom first step last)
      | _ => none
    return .printing (.ofBytes (numbers.flatMap fun n => Text.utf8Bytes (toString n ++ "\n")))
  | "sleep" :: times =>
    let help := "\nTry 'sleep --help' for more information."
    match times, times.mapM pause? with
    | [], _ => some (.failing 1 ("sleep: missing operand" ++ help))
    | _, some pauses => some { Effect.ofCode 0 with pause := ⟨pauses.foldr (·.nanos + ·) 0⟩ }
    | _, none =>
      some (.failing 1 ("sleep: invalid time interval ‘" ++ times.headD "" ++ "’" ++ help))
  | "test" :: condition => some (decided "test" condition)
  | "[" :: condition =>
    if condition.getLast? = some "]" then some (decided "[" condition.dropLast)
    else some (.failing 2 "sh: 1: [: missing ]")
  | _ => none
where
  /-- The words about files that cannot be read, if there are any. -/
  told (words : List String) : Effect :=
    if words.isEmpty then .ofCode 0 else .failing 1 (String.intercalate "\n" words)
  /-- An effect that comes only after the end of a stream. -/
  waiting (stream : Stream) (effect : Effect) : Effect :=
    if stream.isEndless then .never else effect
  /-- As many lines from the end, read backwards. -/
  lastLines : Nat → List UInt8 → List UInt8
    | 0, _ => []
    | _, [] => []
    | n + 1, b :: rest => if b = 10 then (if n = 0 then [] else b :: lastLines n rest)
      else b :: lastLines (n + 1) rest
  /-- What a condition comes to. -/
  decided (name : String) (condition : List String) : Effect :=
    match holds condition with
    | .ok b => .ofCode (if b then 0 else 1)
    | .error why => .failing 2 ("sh: 1: " ++ name ++ ": " ++ why)

end LedgerNet.Shell
