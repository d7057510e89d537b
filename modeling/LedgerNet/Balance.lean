import LedgerNet.Program.Together

/-!
# Checking balances

After every step that moves money the balances it leaves are compared with
what they have to be, to the last unit. A batch of addresses is checked by
one task for each, all of which run to their end; what is reported is the
first failure in the order of the batch, not the first in time.
-/

namespace LedgerNet

/-- **Why a balance is not what it has to be.** -/
inductive BalanceError where
  | mismatch (lane : Lane) (address : String) (expected actual : Nat)
  | query (lane : Lane) (address : String) (cause : ApiError)
  /-- The check itself crashed. -/
  | task (address : String) (cause : Crash)
  deriving DecidableEq, Repr

namespace BalanceError

def message : BalanceError → String
  | mismatch lane address expected actual =>
    "balance of " ++ address ++ " on lane " ++ lane.letter ++ " is " ++ toString actual
      ++ ", expected " ++ toString expected
  | query lane address _ =>
    "failed to query balance of " ++ address ++ " on lane " ++ lane.letter
  | task address _ => "balance check of " ++ address ++ " did not complete"

def causes : BalanceError → List String
  | query _ _ cause => [cause.message]
  | _ => []

end BalanceError

/-- **A way to ask for the balance of an address.** -/
abbrev BalanceSource (Q : Interface.{0}) := String → Attempt (Timed Q) ApiError Nat

/-- **Asking the node behind a client.** The asset matters on the exchange
lane only. -/
def nodeBalance {κ : Type} (client : κ) (lane : Lane) (asset : String) :
    BalanceSource (Clients κ) := fun address =>
  match lane with
  | .x => UInt64.toNat <$> callNode client (.xBalance address asset)
  | .p => UInt64.toNat <$> callNode client (.pBalance address)
  | .c => callNode client (.cBalance address)

namespace Balance

variable {Q : Interface.{0}} {ε : Type}

/-- **An address holds exactly what is expected**, or the check fails. -/
def check (source : BalanceSource Q) (lane : Lane) (address : String) (expected : Nat) :
    Attempt (Timed Q) BalanceError Unit := do
  let actual ← (source address).wrap (.query lane address)
  if actual = expected then return ()
  else .fail (.mismatch lane address expected actual)

/-- What the check of an address came to, seen from the batch. -/
def failure? (address : String) : Outcome BalanceError Unit → Option BalanceError
  | .ok () => none
  | .error (.error cause) => some cause
  | .error (.crash cause) => some (.task address cause)

/-- The first failure among the outcomes of a batch. -/
def firstFailure? (addresses : List String) (outcomes : List (Outcome BalanceError Unit)) :
    Option BalanceError :=
  (addresses.zip outcomes).findSome? fun (address, outcome) => failure? address outcome

/-- **Checks a batch of addresses.** -/
def checkAll (source : BalanceSource Q) (lane : Lane) (expectations : List (String × Nat)) :
    Attempt (Concurrent Q) BalanceError Unit := do
  let outcomes ← Concurrent.together
    (expectations.map fun (address, expected) => check source lane address expected)
  match firstFailure? (expectations.map (·.1)) outcomes with
  | some cause => .fail cause
  | none => return ()

end Balance

end LedgerNet
