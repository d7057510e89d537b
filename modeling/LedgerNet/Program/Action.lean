import LedgerNet.Program.Failure

/-!
# Programs that change something as they go

A registry, a definition, a list of participants: each is a value that
programs change while they ask. What was changed before a failure stays
changed, so the state stands outside of the failure: a run of an action
always ends in a state, whatever its outcome.
-/

namespace LedgerNet

universe u

/-- **A program that changes a state.** Its changes stay when it fails. -/
abbrev Action (σ : Type) (I : Interface.{u}) (ε : Type) := ExceptT (Failure ε) (StateT σ (Proc I))

namespace Action

variable {σ τ : Type} {I : Interface.{u}} {ε δ α : Type}

/-- **An action from a state**: the program that ends with the outcome and
the state. -/
def start (p : Action σ I ε α) (s : σ) : Proc I (Outcome ε α × σ) := p.run.run s

/-- A program that does not touch the state. -/
def lift (p : Attempt I ε α) : Action σ I ε α := ExceptT.mk (StateT.lift p.run)

/-- A request, with its answer as it is. -/
def request (p : Proc I α) : Action σ I ε α := lift (Attempt.ofProc p)

def ofOutcome (outcome : Outcome ε α) : Action σ I ε α := ExceptT.mk (pure outcome)

/-- The program that fails with an error. -/
def fail (cause : ε) : Action σ I ε α := ofOutcome (Outcome.failed cause)

/-- A result that may be an error. -/
def ofExcept (result : Except ε α) : Action σ I ε α := ofOutcome (result.mapError Failure.error)

/-- The program with its errors wrapped. -/
def wrap (f : ε → δ) (p : Action σ I ε α) : Action σ I δ α :=
  ExceptT.mk (p.run >>= fun outcome => pure (outcome.mapError (Failure.map f)))

/-- The outcome of a program, to be looked at by the one that goes on. -/
def outcome (p : Action σ I ε α) : Action σ I δ (Outcome ε α) :=
  ExceptT.mk (p.run >>= fun outcome => pure (Except.ok outcome))

/-- The state as it stands. -/
def state : Action σ I ε σ := ExceptT.lift get

/-- A change of the state. -/
def change (f : σ → σ) : Action σ I ε Unit := ExceptT.lift (modify f)

/-- **An action on a part of a state.** -/
def within (part : τ → σ) (put : σ → τ → τ) (p : Action σ I ε α) : Action τ I ε α :=
  ExceptT.mk fun whole => do
    let ended ← p.start (part whole)
    pure (ended.1, put ended.2 whole)

/-- **An action on a state of its own**, which is lost when it fails. -/
def alone (s : σ) (p : Action σ I ε α) : Attempt I ε (α × σ) :=
  ExceptT.mk do
    let ended ← p.start s
    pure (ended.1.map fun value => (value, ended.2))

end Action

end LedgerNet
