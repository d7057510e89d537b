import LedgerNet.Duration
import LedgerNet.Files
import LedgerNet.Text.Blank

/-!
# Commands of the container tool

The tool that runs containers is a program of its own. A command is given a
limit; one that has not ended by then is stopped and counts as failed. What
it printed is text as far as it is text, without the blanks around it.
-/

namespace LedgerNet

/-- **How a program ended.** -/
inductive ExitStatus where
  | exited (code : Nat)
  | signalled (number : Nat)
  deriving DecidableEq, Repr

namespace ExitStatus

/-- The names of the signals, from the first one on. -/
def signalNames : List String :=
  ["HUP", "INT", "QUIT", "ILL", "TRAP", "ABRT", "BUS", "FPE", "KILL", "USR1", "SEGV", "USR2",
    "PIPE", "ALRM", "TERM", "STKFLT", "CHLD", "CONT", "STOP", "TSTP", "TTIN", "TTOU", "URG",
    "XCPU", "XFSZ", "VTALRM", "PROF", "WINCH", "POLL", "PWR", "SYS"]

def isSuccess (status : ExitStatus) : Bool := status == exited 0

/-- What is shown of an end. -/
def text : ExitStatus → String
  | exited code => "exit status: " ++ toString code
  | signalled number =>
    "signal: " ++ toString number ++ match signalNames[number - 1]? with
      | some name => " (SIG" ++ name ++ ")"
      | none => ""

end ExitStatus

/-- **A run of a program to its end**: how long it takes if nobody stops it,
how it ends, and what it prints. -/
structure CommandRun where
  duration : Duration
  status : ExitStatus
  output : List UInt8
  errorOutput : List UInt8
  deriving DecidableEq, Repr

/-- A run that succeeds at once and prints nothing. -/
def CommandRun.quiet : CommandRun := ⟨.zero, .exited 0, [], []⟩

/-- **Why a command failed.** Commands are named by what they are for. -/
inductive CommandError where
  | notStarted (command : String) (cause : FileError)
  | timeout (command : String) (limit : Duration)
  | failed (command : String) (status : ExitStatus) (errorOutput : String)
  deriving DecidableEq, Repr

namespace CommandError

def message : CommandError → String
  | notStarted command _ => "failed to spawn `" ++ command ++ "`"
  | timeout command limit => "`" ++ command ++ "` timed out after " ++ limit.text
  | failed command status errorOutput =>
    "`" ++ command ++ "` exited with " ++ status.text ++ ": " ++ errorOutput

def causes : CommandError → List String
  | notStarted _ cause => [cause.message]
  | timeout _ _ | failed _ _ _ => []

end CommandError

namespace CommandRun

/-- What a program printed, as a text. -/
def textOf (bytes : List UInt8) : String := Text.trim (Text.decodeUtf8Lossy bytes)

/-- **What a command comes to** within its limit: the text that it printed,
if it ends in time and well. -/
def result (command : String) (limit : Duration) :
    Except FileError CommandRun → Except CommandError String
  | .error cause => .error (.notStarted command cause)
  | .ok run =>
    if limit.nanos ≤ run.duration.nanos then .error (.timeout command limit)
    else if run.status.isSuccess then .ok (textOf run.output)
    else .error (.failed command run.status (textOf run.errorOutput))

end CommandRun

end LedgerNet
