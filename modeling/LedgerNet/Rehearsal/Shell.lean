import LedgerNet.Container.Command
import LedgerNet.Rehearsal.Shell.Arithmetic
import LedgerNet.Rehearsal.Shell.Script
import LedgerNet.Rehearsal.Shell.Utility

/-!
# A shell at work

Commands are rehearsed with scripts that print something, wait, and end in
one way or another. What a script of a POSIX shell does is described as far
as such scripts go.

A run of a script is a function on the state of a shell: what was printed so
far, how long it took, and how it goes on. A script may go on for ever, and
then the state says so; a loop that has not ended after very many rounds
counts as one that never does.
-/

namespace LedgerNet.Shell

/-- **How a script goes on** after what it has done. -/
inductive Flow where
  | on
  /-- A loop is left, after as many others around it. -/
  | leave (outer : Nat)
  /-- A loop begins its next round, after as many others are left. -/
  | again (outer : Nat)
  | ended
  /-- A signal has ended the shell and all that belong to it. -/
  | killed
  /-- It never ends, and prints something again and again. -/
  | forever (printing : List UInt8)
  deriving Repr

/-- **A shell at work.** -/
structure State where
  bindings : List (String × String)
  status : ExitStatus
  input : Stream
  /-- What was printed, each time with the descriptor; the last comes
  first. -/
  printed : List (Nat × List UInt8)
  pause : Duration
  flow : Flow

namespace State

/-- The number of the shell among the processes. -/
def processId : String := "4242"

/-- A shell that was just started. -/
def start : State :=
  ⟨[("0", "sh"), ("#", "0"), ("$", processId)], .exited 0, .empty, [], .zero, .on⟩

/-- The number by which a status is known to the next command. -/
def codeOf : ExitStatus → Nat
  | .exited code => code
  | .signalled number => 128 + number

/-- The value of a parameter. One that has none is empty, unless its name says
what stands for it then. -/
def value (s : State) (name : String) : String :=
  let plain := name.toList.takeWhile (· != ':')
  let text := if plain = ['?'] then toString (codeOf s.status)
    else (s.bindings.lookup (String.ofList plain)).getD ""
  match name.toList.drop plain.length with
  | ':' :: '-' :: usual => if text.isEmpty then String.ofList usual else text
  | _ => text

def assign (s : State) (name value : String) : State :=
  { s with bindings := (name, value) :: s.bindings.filter (·.1 != name) }

def ending (s : State) (code : Nat) (flow : Flow) : State :=
  { s with status := .exited code, flow := flow }

def code (s : State) (code : Nat) : State := { s with status := .exited code }

def isWell (s : State) : Bool := s.status.isSuccess

def print (s : State) (descriptor : Nat) (bytes : List UInt8) : State :=
  if bytes.isEmpty then s else { s with printed := (descriptor, bytes) :: s.printed }

/-- The state after the shell has refused to do something. -/
def refused (s : State) (why : String) (code : Nat) : State :=
  (s.print 2 (Text.utf8Bytes ("sh: 1: " ++ why ++ "\n"))).code code

/-- Whether the next command is run. -/
def goesOn (s : State) : Bool :=
  match s.flow with
  | .on => true
  | _ => false

/-- What was printed on a descriptor. -/
def bytesOn (s : State) (descriptor : Nat) : List UInt8 :=
  ((s.printed.filter (·.1 == descriptor)).reverse.map (·.2)).flatten

/-- What was printed on the output, with what is printed for ever. -/
def stream (s : State) : Stream :=
  match s.flow with
  | .forever more => ⟨s.bytesOn 1, more⟩
  | _ => ⟨s.bytesOn 1, []⟩

/-- The state after a utility. -/
def after (s : State) (effect : Effect) : State :=
  let s := (s.print 1 effect.output.bytes).print 2 effect.errors
  let s := { s with
    status := .exited effect.code
    pause := ⟨s.pause.nanos + effect.pause.nanos⟩ }
  if effect.output.isEndless ∨ Duration.limit ≤ effect.pause.nanos then
    { s with flow := .forever effect.output.forever }
  else s

/-- The state after what a shell inside this one did, which has its own
parameters and its own end. -/
def afterInner (s inner : State) : State :=
  let flow := match inner.flow with
    | .killed => .killed
    | .forever more => .forever more
    | _ => s.flow
  { s with status := inner.status, pause := inner.pause, printed := inner.printed, flow := flow }

/-- The state after a round of a loop, and whether there is another. -/
def afterRound (s : State) : State × Bool :=
  match s.flow with
  | .on | .again 0 => ({ s with flow := .on }, true)
  | .leave 0 => ({ s with flow := .on }, false)
  | .again (outer + 1) => ({ s with flow := .again outer }, false)
  | .leave (outer + 1) => ({ s with flow := .leave outer }, false)
  | _ => (s, false)

end State

/-! ## Redirections -/

/-- Where a descriptor leads: to another one, or nowhere. -/
abbrev Routes := List (Nat × Option Nat)

/-- Where a descriptor leads by some routes. -/
def Routes.follow (routes : Routes) (descriptor : Nat) : Option Nat :=
  (routes.lookup descriptor).getD (some descriptor)

/-- The routes with one more, which starts from where the others lead. -/
def Routes.add (routes : Routes) (descriptor : Nat) (operator target : String) : Routes :=
  let goal : Option Nat := match operator, target with
    | _, "/dev/stdout" => routes.follow 1
    | _, "/dev/stderr" => routes.follow 2
    | ">&", "-" => none
    | ">&", text => text.toNat?.bind routes.follow
    | _, _ => none
  (descriptor, goal) :: routes

/-- What was printed, where the routes lead. -/
def Routes.route (routes : Routes) (printed : List (Nat × List UInt8)) :
    List (Nat × List UInt8) :=
  printed.filterMap fun (descriptor, bytes) => (routes.follow descriptor).map (·, bytes)

/-! ## Signals -/

/-- The number of a signal, by its name or its digits. -/
def signal? (text : String) : Option Nat :=
  (Text.digits? 10 text.toList).or
    ((ExitStatus.signalNames.findIdx? (· == text)).map (· + 1))

/-- The state after a signal is sent. -/
def kill (s : State) (name target : String) : State :=
  match signal? name with
  | some number =>
    if target ≠ State.processId then s.code 1
    else if number = 0 then s.code 0
    else { s with status := .signalled number, flow := .killed }
  | none => s.refused ("kill: Illegal option -" ++ name.take 1) 2

/-! ## Simple commands -/

/-- A program that is not there, or cannot be run. -/
def State.missing (s : State) (before name : String) : State :=
  let refused (why : String) := s.refused (before ++ name ++ ": " ++ why)
  if name.toList.contains '/' ∧ usualFiles.isDirectory (Path.names name) then
    refused "Permission denied" 126
  else refused "not found" 127

/-- The part of a line that the command for reading takes, and the rest. -/
def firstLine (s : Stream) : List UInt8 × Stream :=
  let bytes := s.unrolled 1
  (bytes.takeWhile (· != 10), ⟨(bytes.dropWhile (· != 10)).drop 1, s.forever⟩)

/-- **A simple command**, done by the shell itself or by a utility. -/
def State.perform (s : State) : List String → State
  | [] => s
  | "exit" :: words =>
    match words.head? with
    | none => { s with flow := .ended }
    | some text =>
      match Text.digits? 10 text.toList with
      | some code => s.ending (code % 256) .ended
      | none => { s.refused ("exit: Illegal number: " ++ text) 2 with flow := .ended }
  | "break" :: words => s.ending 0 (.leave (((words.head?.bind String.toNat?).getD 1) - 1))
  | "continue" :: words => s.ending 0 (.again (((words.head?.bind String.toNat?).getD 1) - 1))
  | ["kill", target] => kill s "TERM" target
  | ["kill", "-s", name, target] => kill s name target
  | ["kill", option, target] => kill s (String.ofList (option.toList.drop 1)) target
  | "set" :: _ | "unset" :: _ => s.code 0
  | "export" :: words =>
    (words.foldl (fun s word =>
      match word.toList.span (· != '=') with
      | (name, _ :: value) => s.assign (String.ofList name) (String.ofList value)
      | _ => s) s).code 0
  | "read" :: words =>
    let (line, input) := firstLine s.input
    let name := (words.filter (· != "-r")).headD "REPLY"
    let text := Text.trim (Text.decodeUtf8Lossy line)
    { (s.assign name text).code (if s.input.isEmpty then 1 else 0) with input := input }
  | "exec" :: word :: words =>
    let s := external s "exec: " (word :: words)
    match s.flow with
    | .on => { s with flow := .ended }
    | _ => s
  | words => external s "" words
where
  /-- A command that a utility does. -/
  external (s : State) (before : String) (words : List String) : State :=
    match utility? s.input words with
    | some effect => s.after effect
    | none => s.missing before (words.headD "")

/-! ## Scripts -/

/-- The words of a value that is not quoted. -/
def splitFields (text : String) : List String :=
  ((text.toList.splitBy fun a b => !Char.isWhitespace a && !Char.isWhitespace b).filter
    (fun cs => !cs.all Char.isWhitespace)).map String.ofList

/-- Fields that are being put together: those that are complete, the last
one first, and the one that may still grow. -/
structure Fields where
  complete : List String
  current : Option String

namespace Fields

/-- Letters more for the field. -/
def glue (f : Fields) (text : String) : Fields :=
  { f with current := some (f.current.getD "" ++ text) }

/-- The end of the field. -/
def close (f : Fields) : Fields := ⟨f.current.toList ++ f.complete, none⟩

/-- A value that is cut at its blanks. -/
def cut (f : Fields) (text : String) : Fields :=
  let f := if text.toList.head?.any Char.isWhitespace then f.close else f
  let f := match splitFields text with
    | [] => f
    | first :: more => more.foldl (fun f word => f.close.glue word) (f.glue first)
  if text.toList.getLast?.any Char.isWhitespace then f.close else f

/-- A value, quoted or not. -/
def add (f : Fields) (text : String) (quoted : Bool) : Fields :=
  if quoted then f.glue text else f.cut text

end Fields

/-- What a script prints, without the ends of lines after it. -/
def captured (bytes : List UInt8) : String :=
  Text.decodeUtf8Lossy (bytes.reverse.dropWhile (· == 10)).reverse

/-- A part of a value for a parameter, which is never cut at its blanks. -/
def quoting : Part → Part
  | .parameter name _ => .parameter name true
  | .output script _ => .output script true
  | part => part

/-- Whether a part runs a script. -/
def isOutput : Part → Bool
  | .output _ _ => true
  | _ => false

mutual

/-- The fields that a word comes to, and the state after its scripts. -/
def expandPart : Nat → State → Part → Fields → State × Fields
  | 0, s, _, fields => (s, fields)
  | fuel + 1, s, part, fields =>
    match part with
    | .literal cs => (s, fields.glue (String.ofList cs))
    | .parameter name quoted => (s, fields.add (s.value name) quoted)
    | .number expression =>
      let value (name : String) := (number? (s.value name)).getD 0
      (s, fields.glue (toString (compute value expression)))
    | .output script quoted =>
      match parse script with
      | .error _ => (s.code 2, fields)
      | .ok script =>
        let inner := run fuel script { s with printed := [] }
        let errors := inner.printed.filter (·.1 == 2)
        let s := s.afterInner { inner with printed := errors ++ s.printed }
        (s, fields.add (captured (inner.bytesOn 1)) quoted)

/-- The fields of some words. -/
def expand : Nat → State → List Word → State × List String
  | 0, s, _ => (s, [])
  | fuel + 1, s, words =>
    words.foldl (fun (s, done) word =>
      let (s, fields) := word.parts.foldl (fun (s, fields) part =>
        expandPart fuel s part fields) (s, ⟨[], none⟩)
      (s, done ++ fields.close.complete.reverse)) (s, [])

/-- A simple command, or a text that is a script of its own: in a new shell,
or in this one. -/
def runWords : Nat → List String → State → State
  | 0, _, s => { s with flow := .forever [] }
  | fuel + 1, words, s =>
    match words with
    | "sh" :: "-c" :: text :: _ | "exec" :: "sh" :: "-c" :: text :: _ =>
      let s := match parse text.toList with
        | .ok script => s.afterInner (run fuel script { s with bindings := State.start.bindings })
        | .error cause => (s.print 2 (Text.utf8Bytes (cause.message ++ "\n"))).code 2
      if words.head? = some "exec" ∧ s.goesOn then { s with flow := .ended } else s
    | "eval" :: texts =>
      match parse (String.intercalate " " texts).toList with
      | .ok script => run fuel script s
      | .error cause => (s.print 2 (Text.utf8Bytes (cause.message ++ "\n"))).ending 2 .ended
    | words => s.perform words

/-- **Runs a script.** -/
def run : Nat → Script → State → State
  | 0, _, s => { s with flow := .forever [] }
  | fuel + 1, script, s =>
    if !s.goesOn then s
    else match script with
      | .nothing => s
      | .command values words =>
        let (s, words) := expand fuel s words
        let s := values.foldl (fun s (name, word) =>
          let (s, fields) := word.parts.foldl (fun (s, fields) part =>
            expandPart fuel s (quoting part) fields) (s, ⟨[], none⟩)
          s.assign name (fields.current.getD "")) s
        if words.isEmpty then
          if values.any fun (_, word) => word.parts.any isOutput then s else s.code 0
        else runWords fuel words s
      | .redirected script redirections =>
        let (s, routes, silent) := redirections.foldl (fun (s, routes, silent) r =>
          let (s, fields) := expand fuel s [r.target]
          let target := fields.headD ""
          if r.operator == "<" then (s, routes, true)
          else (s, Routes.add routes r.descriptor r.operator target, silent)) (s, [], false)
        let input := if silent then Stream.empty else s.input
        let inner := run fuel script { s with printed := [], input := input }
        let flow := match inner.flow with
          | .forever more => .forever (if Routes.follow routes 1 = some 1 then more else [])
          | flow => flow
        { inner with
          printed := Routes.route routes inner.printed ++ s.printed
          input := if silent then s.input else inner.input
          flow := flow }
      | .pipe first second =>
        let left := run fuel first { s with printed := [] }
        let errors := left.printed.filter (·.1 == 2)
        let printed := errors ++ s.printed
        match left.flow with
        | .killed => { s with printed := printed, status := left.status, flow := .killed }
        | _ =>
          let right := run fuel second { s with
            printed := printed, input := left.stream, pause := left.pause }
          s.afterInner right
      | .seq first second => run fuel second (run fuel first s)
      | .thenIf well first second =>
        let s := run fuel first s
        if s.isWell == well then run fuel second s else s
      | .negated script =>
        let s := run fuel script s
        if s.goesOn then s.code (if s.isWell then 1 else 0) else s
      | .apart script => s.afterInner (run fuel script s)
      | .choose condition yes no =>
        let s := run fuel condition s
        if s.goesOn then
          if s.isWell then run fuel yes s
          else match no with
            | .nothing => s.code 0
            | no => run fuel no s
        else s
      | .loop well condition body =>
        let tested := run fuel condition s
        if !tested.goesOn then tested
        else if tested.isWell != well then tested.code (State.codeOf s.status)
        else
          let (s, more) := (run fuel body tested).afterRound
          if more then run fuel (.loop well condition body) s else s
      | .each name words body =>
        let (s, words) := expand fuel s words
        (words.foldl (fun (s, going) word =>
          if going then (run fuel body (s.assign name word)).afterRound else (s, going))
          (s, true)).1

end

/-- How many rounds a loop may have before it counts as endless. -/
def rounds : Nat := 20000

/-- **What a script comes to**: a signal that ends the shell is how it ended;
a script that never ends takes longer than any limit. -/
def runScript (script : String) : CommandRun :=
  match parse script.toList with
  | .error cause =>
    ⟨.zero, .exited 2, [], Text.utf8Bytes (cause.message ++ "\n")⟩
  | .ok script =>
    let done := run rounds script .start
    let duration := match done.flow with
      | .forever _ => ⟨Duration.limit⟩
      | _ => done.pause
    ⟨duration, done.status, done.bytesOn 1, done.bytesOn 2⟩

/-! ## Programs -/

/-- **Why something cannot be started**: it is not there, or it is there and
is no program. A name without a slash is looked for among the programs
only. -/
def startError (program : String) : FileError :=
  if program.toList.contains '/' then
    match usualFiles.walk [] (Path.names program) with
    | .ok _ => .permissionDenied
    | .error cause => cause
  else .notFound

/-- **What a program does** with its arguments. -/
def runProgram (program : String) (arguments : List String) : Except FileError CommandRun :=
  if (program :: arguments).any (·.toList.contains '\x00') then .error .zeroInArgument
  else
    match program, arguments with
    | "sh", "-c" :: script :: _ | "/bin/sh", "-c" :: script :: _ => .ok (runScript script)
    | _, _ => .error (startError program)

end LedgerNet.Shell
