import LedgerNet.Environment.Timing
import LedgerNet.Program.Timed

/-!
# Waiting until a node is ready

A node that was just started catches up with the network on each lane on its
own. It is ready when it has said so for all three. The lanes are asked in a
fixed order, a round of questions ends at the first lane that does not say
yes, and a lane that has said yes is never asked again.

A wait asks a number of rounds with a pause between two of them and none
after the last. When it gives up it tells which lanes are missing and what
the last question that failed ran into.
-/

namespace LedgerNet

/-- **The lanes that a node has caught up with.** Once true, always true. -/
structure ReadinessRecord where
  p : Bool
  c : Bool
  x : Bool
  deriving DecidableEq, Repr

namespace ReadinessRecord

/-- Nothing is known of a node that was just started. -/
def blank : ReadinessRecord := ⟨false, false, false⟩

def lane (record : ReadinessRecord) : Lane → Bool
  | .p => record.p
  | .c => record.c
  | .x => record.x

/-- Every lane has caught up. -/
def isReady (record : ReadinessRecord) : Bool :=
  record.p && record.c && record.x

/-- The record with one lane more. -/
def mark (record : ReadinessRecord) : Lane → ReadinessRecord
  | .p => { record with p := true }
  | .c => { record with c := true }
  | .x => { record with x := true }

/-- The order in which lanes are asked. -/
def order : List Lane := [.p, .c, .x]

/-- The lanes that are missing, in that order. -/
def pending (record : ReadinessRecord) : List Lane :=
  order.filter fun lane => !record.lane lane

@[simp] theorem lane_mark (record : ReadinessRecord) (a b : Lane) :
    (record.mark a).lane b = (record.lane b || a == b) := by
  cases a <;> cases b <;> simp [mark, lane]

end ReadinessRecord

/-- **What is known of a node that is waited for.** -/
structure Checker (κ : Type) where
  node : String
  client : κ
  record : ReadinessRecord
  /-- What the last question that failed ran into. -/
  lastError : Option ApiError

/-- **Why a wait ended without the node being ready.** -/
inductive ReadinessError where
  /-- The budget ran out. -/
  | exhausted (node : String) (pending : List Lane) (lastError : Option ApiError)
    (attempts : UInt32)
  deriving DecidableEq, Repr

/-- What is missing of a node, and what the last failed question ran into. -/
def readinessText (node : String) (pending : List Lane) (lastError : Option ApiError) : String :=
  "node `" ++ node ++ "` never bootstrapped lanes ["
    ++ String.intercalate "," (pending.map Lane.letter) ++ "]"
    ++ match lastError with
      | some error => "; last error: " ++ error.message
      | none => ""

def ReadinessError.message : ReadinessError → String
  | exhausted node pending lastError attempts =>
    readinessText node pending lastError ++ " (after " ++ toString attempts ++ " attempts)"

namespace Checker

variable {κ ε : Type}

/-- A node of which nothing is known yet. -/
def ofNode (node : String) (client : κ) : Checker κ := ⟨node, client, .blank, none⟩

/-- What would be reported if the wait ended now. -/
def timeoutMessage (checker : Checker κ) : String :=
  readinessText checker.node checker.record.pending checker.lastError

/-- **Asks some lanes in turn**, those that have not caught up, and stops at
the first that does not say yes. -/
def pollLanes (checker : Checker κ) :
    List Lane → Attempt (Timed (Clients κ)) ε (Bool × Checker κ)
  | [] => return (true, checker)
  | lane :: rest =>
    if checker.record.lane lane then checker.pollLanes rest
    else do
      match ← (callNode checker.client (.isBootstrapped lane)).outcome with
      | .ok true => pollLanes { checker with record := checker.record.mark lane } rest
      | .ok false => return (false, checker)
      | .error (.error cause) => return (false, { checker with lastError := some cause })
      | .error (.crash cause) => .ofOutcome (Outcome.crashed cause)

/-- **One round of questions.** -/
def poll (checker : Checker κ) : Attempt (Timed (Clients κ)) ε (Bool × Checker κ) :=
  checker.pollLanes ReadinessRecord.order

/-- Up to a number of rounds, with a pause between two of them. -/
def rounds (interval : Duration) (checker : Checker κ) :
    Nat → Attempt (Timed (Clients κ)) ε (Bool × Checker κ)
  | 0 => return (false, checker)
  | 1 => checker.poll
  | left + 2 => do
    let (ready, checker) ← checker.poll
    if ready then return (true, checker)
    sleep interval
    rounds interval checker (left + 1)

/-- **Waits within a budget.** The answer says whether the node got ready,
and what is known of it in the end. -/
def await (checker : Checker κ) (budget : PollBudget) :
    Attempt (Timed (Clients κ)) ε (Except ReadinessError Unit × Checker κ) := do
  let (ready, checker) ← rounds budget.interval checker budget.maxAttempts.toNat
  if ready then return (.ok (), checker)
  else
    return (.error (.exhausted checker.node checker.record.pending checker.lastError
      budget.maxAttempts), checker)

/-- A wait that fails where the node does not get ready. -/
def awaitReady (checker : Checker κ) (budget : PollBudget) :
    Attempt (Timed (Clients κ)) ReadinessError Unit := do
  match (← checker.await budget).1 with
  | .ok () => return ()
  | .error cause => .fail cause

end Checker

end LedgerNet
