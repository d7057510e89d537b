import LedgerNet.Number.Checked
import LedgerNet.Program.Basic

/-!
# How programs fail

A program can fail in two ways. An **error** is an outcome that its author
foresaw: it has a cause of its own type and is handed to whoever asked. A
**crash** ends everything that depends on the computation: an overflow, or
a node that breaks down in the middle of an answer. The two are kept apart
because they travel differently. Errors can be caught and wrapped; a crash
passes through every wrapper unchanged, and only the boundary of a task
stops it.
-/

namespace LedgerNet

universe u

/-- **What makes a computation crash.** -/
inductive Crash where
  | overflow (cause : Overflow)
  /-- Something outside broke down and said this. -/
  | breakdown (text : String)
  deriving DecidableEq, Repr

/-- What is reported of a crash. -/
def Crash.message : Crash → String
  | overflow cause => cause.message
  | breakdown text => text

/-- **How a computation fails.** -/
inductive Failure (ε : Type) where
  | error (cause : ε)
  | crash (cause : Crash)
  deriving DecidableEq, Repr

namespace Failure

variable {ε δ : Type}

/-- The failure with its error put into another one; a crash stays what it
is. -/
def map (wrap : ε → δ) : Failure ε → Failure δ
  | error cause => error (wrap cause)
  | crash cause => crash cause

end Failure

/-- **The outcome of a computation.** -/
abbrev Outcome (ε α : Type) := Except (Failure ε) α

namespace Outcome

variable {ε α : Type}

/-- An outcome that is an error. -/
def failed (cause : ε) : Outcome ε α := Except.error (.error cause)

/-- An outcome that is a crash. -/
def crashed (cause : Crash) : Outcome ε α := Except.error (.crash cause)

/-- A computation on numbers as an outcome: an overflow is a crash. -/
def ofChecked : Checked α → Outcome ε α
  | .ok value => .ok value
  | .error cause => crashed (.overflow cause)

end Outcome

/-- **A program that may fail.** -/
abbrev Attempt (I : Interface.{u}) (ε : Type) := ExceptT (Failure ε) (Proc I)

namespace Attempt

variable {I : Interface.{u}} {ε δ α : Type}

/-- A program that may fail, from its outcome. -/
def ofOutcome (outcome : Outcome ε α) : Attempt I ε α := ExceptT.mk (pure outcome)

/-- A computation on numbers in a program. -/
def ofChecked (value : Checked α) : Attempt I ε α := ofOutcome (Outcome.ofChecked value)

/-- The program that fails with an error. -/
def fail (cause : ε) : Attempt I ε α := ofOutcome (Outcome.failed cause)

/-- A result that may be an error. -/
def ofExcept (result : Except ε α) : Attempt I ε α := ofOutcome (result.mapError Failure.error)

/-- A program that cannot fail, where failing programs are expected. -/
def ofProc (p : Proc I α) : Attempt I ε α := ExceptT.lift p

/-- **The program with its errors wrapped.** -/
def wrap (f : ε → δ) (p : Attempt I ε α) : Attempt I δ α :=
  ExceptT.mk (p.run >>= fun outcome => pure (outcome.mapError (Failure.map f)))

/-- The outcome of a program, to be looked at by the one that goes on. -/
def outcome (p : Attempt I ε α) : Attempt I δ (Outcome ε α) :=
  ExceptT.mk (p.run >>= fun outcome => pure (Except.ok outcome))

end Attempt

end LedgerNet
