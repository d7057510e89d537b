import LedgerNet.Environment.Timing
import LedgerNet.Program.Timed

/-!
# Waiting for a transaction

A transaction that was handed in takes time to settle. It is asked for once
per interval until it is accepted or abandoned, or until the next question
would come after the timeout. The first question comes at once, so even a
timeout of zero asks once.

A question that fails is no verdict. It is remembered, for the report of a
timeout, and asked again. Only a client that does not know the question at
all ends the wait, since it never will. The contract lane is such a client;
there a run can do no better than wait for a fixed part of the timeout.

The number of questions is a word of 32 bits. A wait that would ask more
often crashes, which takes an interval of zero or more than a century.
-/

namespace LedgerNet

/-- **Why a transaction was not accepted.** -/
inductive AcceptanceError where
  | timeout (tx : TxId) (lane : Lane) (elapsed : Duration) (lastError : Option ApiError)
  | abandoned (tx : TxId) (lane : Lane) (reason : String)
  | unsupported (lane : Lane)
  deriving DecidableEq, Repr

namespace AcceptanceError

def message : AcceptanceError → String
  | timeout tx lane elapsed _ =>
    "tx " ++ tx ++ " on lane " ++ lane.letter ++ " not accepted after " ++ elapsed.text
  | abandoned tx lane reason =>
    "tx " ++ tx ++ " on lane " ++ lane.letter ++ " was abandoned: " ++ reason
  | unsupported lane => "lane " ++ lane.letter ++ " exposes no transaction status"

def causes : AcceptanceError → List String
  | timeout _ _ _ (some cause) => [cause.message]
  | _ => []

def isUnsupported : AcceptanceError → Bool
  | unsupported _ => true
  | _ => false

end AcceptanceError

/-- **A way to ask where a transaction stands.** -/
abbrev StatusSource (Q : Interface.{0}) := TxId → Attempt (Timed Q) ApiError AcceptanceState

/-- **Asking the node behind a client.** The contract lane has no such
question. -/
def nodeStatus {κ : Type} (client : κ) (lane : Lane) : StatusSource (Clients κ) := fun tx =>
  match lane with
  | .x => XStatus.state <$> callNode client (.xStatus tx)
  | .p => PStatusReply.state <$> callNode client (.pStatus tx)
  | .c => .fail (.unsupported "avax.getAtomicTxStatus")

namespace Acceptance

variable {Q : Interface.{0}}

/-- How often a wait may ask. -/
def maxPolls : Nat := 2 ^ 32 - 1

/-- What one answer means for a wait. -/
inductive Verdict where
  | settled
  | lost (cause : AcceptanceError)
  | broken (cause : Crash)
  /-- Ask again; an error is remembered. -/
  | undecided (cause : Option ApiError)

/-- **What an answer means.** -/
def verdict (tx : TxId) (lane : Lane) : Outcome ApiError AcceptanceState → Verdict
  | .ok .accepted => .settled
  | .ok (.abandoned reason) => .lost (.abandoned tx lane reason)
  | .ok .pending => .undecided none
  | .error (.crash cause) => .broken cause
  | .error (.error (.unsupported _)) => .lost (.unsupported lane)
  | .error (.error cause) => .undecided (some cause)

/-- The wait with a number of questions left, begun at a point in time. -/
def pollFrom (source : StatusSource Q) (tx : TxId) (lane : Lane) (settings : PollSettings)
    (begun : Duration) (lastError : Option ApiError) : Nat → Attempt (Timed Q) AcceptanceError Unit
  | 0 => .ofOutcome (Outcome.crashed (.overflow .sum))
  | left + 1 => do
    match verdict tx lane (← (source tx).outcome) with
    | .settled => return ()
    | .lost cause => .fail cause
    | .broken cause => .ofOutcome (Outcome.crashed cause)
    | .undecided cause =>
      let lastError := cause.or lastError
      let waited := (← elapsed).minusOrZero begun
      let next ← Attempt.ofChecked (waited.plus settings.interval)
      if settings.timeout.nanos < next.nanos then
        .fail (.timeout tx lane waited lastError)
      else
        sleep settings.interval
        pollFrom source tx lane settings begun lastError left

/-- **Waits until a transaction is accepted.** -/
def await (source : StatusSource Q) (tx : TxId) (lane : Lane) (settings : PollSettings) :
    Attempt (Timed Q) AcceptanceError Unit := do
  let begun ← elapsed
  pollFrom source tx lane settings begun none maxPolls

/-- **Waits until a transaction is accepted, or for a fifth of the timeout**
where the lane cannot tell. -/
def awaitOrPause (source : StatusSource Q) (tx : TxId) (lane : Lane) (settings : PollSettings) :
    Attempt (Timed Q) AcceptanceError Unit := do
  match ← (await source tx lane settings).outcome with
  | .error (.error (.unsupported _)) => sleep settings.timeout.fifth
  | outcome => .ofOutcome outcome

end Acceptance

end LedgerNet
