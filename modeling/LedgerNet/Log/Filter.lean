import LedgerNet.Environment.Basic
import LedgerNet.Text.Blank

/-!
# Log filters

Which lines of a log are shown is said by a filter: a list of directives
with commas between them. A directive has a level, and it may be about the
lines of some part of the program, or about those that have some field. Of
the directives that are about a line the most specific one decides.

A filter comes from one of two variables. The first one is only taken if all
of its directives can be read. In the second one those that cannot are left
out.
-/

namespace LedgerNet

/-- **How important a line is.** -/
inductive LogLevel where
  | error
  | warn
  | info
  | debug
  | trace
  deriving DecidableEq, Repr

namespace LogLevel

/-- The levels from the most important one on. -/
def all : List LogLevel := [error, warn, info, debug, trace]

/-- How many levels are shown where this is the last one. -/
def rank : LogLevel → Nat
  | error => 1
  | warn => 2
  | info => 3
  | debug => 4
  | trace => 5

def name : LogLevel → String
  | error => "error"
  | warn => "warn"
  | info => "info"
  | debug => "debug"
  | trace => "trace"

end LogLevel

/-- **A line of a log**, as far as filters know it. -/
structure LogLine where
  level : LogLevel
  /-- The part of the program that it comes from. -/
  target : String
  fields : List String
  deriving DecidableEq, Repr

/-- **A directive.** -/
structure LogDirective where
  /-- How targets begin that it is about; without one it is about all. -/
  target : Option String
  /-- Whether it is about what happens inside of named sections, of which no
  line here is a part. -/
  inSection : Bool
  /-- A field that lines must have. -/
  field : Option String
  /-- The rank of the last level that is shown; zero shows none. -/
  rank : Nat
  deriving DecidableEq, Repr

namespace LogDirective

/-! ## Reading -/

/-- A level by its number or by its name, in any mixture of cases; zero and
`off` show nothing. -/
def readRank? (cs : List Char) : Option Nat :=
  match Text.unsigned? 10 6 cs with
  | some n => some n
  | none =>
    let word := String.ofList (cs.map Char.toLower)
    if word = "off" then some 0
    else (LogLevel.all.find? (·.name == word)).map LogLevel.rank

/-- The rank behind an equals sign; nothing behind it shows everything. -/
def readBehind? (cs : List Char) : Option Nat :=
  if cs.isEmpty then some LogLevel.trace.rank else readRank? cs

/-- What stands between brackets, and what comes after them: a section, a
field between braces, or both. A field with a value counts as a section. -/
def readBrackets? (cs : List Char) : Option (Bool × Option String × List Char) :=
  let name := cs.takeWhile fun c => c != ']' && c != '\x7b'
  match cs.drop name.length with
  | ']' :: rest => some (true, none, rest)
  | '\x7b' :: rest =>
    let field := rest.takeWhile (· != '\x7d')
    match rest.drop field.length with
    | '\x7d' :: ']' :: rest =>
      if field.isEmpty then none
      else
        let bare := field.takeWhile (· != '=')
        some (!name.isEmpty || bare.length < field.length, some (String.ofList bare), rest)
    | _ => none
  | _ => none

/-- The level at the end of a directive, which may be left out. -/
def readEnd? (aligned : Bool) : List Char → Option Nat
  | [] => some LogLevel.trace.rank
  | '=' :: rest => if aligned then readBehind? rest else none
  | _ => none

/-- Whether a directive may begin with a character. -/
def mayBegin (c : Char) : Bool :=
  c.isAlphanum || c == '-' || c == ':' || c == '_' || 0x7f < c.toNat

/-- **A directive in a text.** A level alone is about all lines, any other
word alone is a target. Blanks around a word make it something else than a
level, and no blanks may come before a directive with an equals sign. -/
def ofText? (text : List Char) : Option LogDirective :=
  let cs := (Text.trim (String.ofList text)).toList
  let aligned := !text.head?.any Text.isBlank
  match cs with
  | [] => none
  | '[' :: rest => do
    let (inSection, field, rest) ← readBrackets? rest
    return ⟨none, inSection, field, ← readEnd? aligned rest⟩
  | c :: _ =>
    if !mayBegin c then none
    else
      let target := cs.takeWhile fun c => c != '=' && c != '['
      match cs.drop target.length with
      | [] =>
        match readRank? text with
        | some rank => some ⟨none, false, none, rank⟩
        | none => some ⟨some (String.ofList text), false, none, LogLevel.trace.rank⟩
      | '[' :: rest => do
        let (inSection, field, rest) ← readBrackets? rest
        return ⟨some (String.ofList target), inSection, field, ← readEnd? aligned rest⟩
      | rest => do
        return ⟨some (String.ofList target), false, none, ← readEnd? aligned rest⟩

/-! ## Choosing -/

/-- **Whether a directive is about a line.** -/
def covers (directive : LogDirective) (line : LogLine) : Bool :=
  !directive.inSection
    && directive.target.all (fun target => target.toList.isPrefixOf line.target.toList)
    && directive.field.all line.fields.contains

/-- Whether a directive is less specific than another one: its target is
shorter, or it has as long a target and no field. -/
def isBroader (a b : LogDirective) : Bool :=
  let reach (d : LogDirective) : Nat := (d.target.map fun t => t.utf8ByteSize + 1).getD 0
  reach a < reach b || (reach a == reach b && match a.field, b.field with
    | none, some _ => true
    | some f, some g => f < g
    | _, none => false)

end LogDirective

/-- **A filter**: its directives in the order in which they were given. -/
structure LogFilter where
  directives : List LogDirective
  deriving DecidableEq, Repr

namespace LogFilter

/-- The parts of a text between commas. -/
def parts : List Char → List (List Char)
  | [] => [[]]
  | ',' :: rest => [] :: parts rest
  | c :: rest =>
    match parts rest with
    | [] => [[c]]
    | part :: others => (c :: part) :: others

/-- The directives of a text, read or not; empty ones do not count. -/
def readAll (text : String) : List (Option LogDirective) :=
  ((parts text.toList).filter (!·.isEmpty)).map LogDirective.ofText?

/-- A filter all of whose directives can be read. -/
def ofText? (text : String) : Option LogFilter :=
  ((readAll text).mapM id).map LogFilter.mk

/-- A filter of the directives that can be read. -/
def ofTextLossy (text : String) : LogFilter := ⟨(readAll text).filterMap id⟩

/-- **The filter of a run.** Without any variable it shows what is at least
an info. -/
def ofEnvironment (env : Environment) : LogFilter :=
  match env.logFilter?.bind ofText? with
  | some filter => filter
  | none => ofTextLossy (env.logLevel?.getD "info")

/-- The most specific directive that is about a line; the last one of
several. -/
def deciding? (filter : LogFilter) (line : LogLine) : Option LogDirective :=
  (filter.directives.filter (·.covers line)).foldl (fun best directive =>
    match best with
    | some other => if directive.isBroader other then best else some directive
    | none => some directive) none

/-- **Whether a line is shown.** A filter without directives shows errors
alone. -/
def shows (filter : LogFilter) (line : LogLine) : Bool :=
  if filter.directives.isEmpty then line.level == .error
  else
    match filter.deciding? line with
    | some directive => line.level.rank ≤ directive.rank
    | none => false

end LogFilter

end LedgerNet
