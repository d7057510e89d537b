import LedgerNet.Acceptance
import LedgerNet.Balance
import LedgerNet.Fleet
import LedgerNet.Staking.Amounts

/-!
# What goes wrong in a staking run

A run fails at the first thing that is not as it has to be. Errors of the
layers below pass through as they are; a call that fails is reported with
the step that made it.
-/

namespace LedgerNet

/-- **Why a staking run failed.** -/
inductive StakingError where
  /-- A call to a node failed; the step is the name of the call. -/
  | api (step : String) (cause : ApiError)
  | acceptance (cause : AcceptanceError)
  | balance (cause : BalanceError)
  | fleet (cause : FleetError)
  | configuration (cause : DefinitionError)
  | validatorMissing (nodeId : String) (validators : List String)
  /-- A node is connected to one that nobody expects; the expected ones are
  listed by identity with their addresses. -/
  | peerMismatch (peer : String) (known : List (String × String))
  | amounts (cause : AmountsError)
  | unknownNode (id : String)
  | missingFunder
  deriving DecidableEq, Repr

namespace StakingError

def message : StakingError → String
  | api step _ => step ++ " failed"
  | acceptance cause => cause.message
  | balance cause => cause.message
  | fleet cause => cause.message
  | configuration cause => cause.message
  | validatorMissing nodeId validators =>
    "node " ++ nodeId ++ " not found among current validators " ++ Text.quoteList validators
  | peerMismatch peer known =>
    "peer address " ++ peer ++ " not found in the peer list: " ++ Text.quoteBook known
  | amounts cause => cause.message
  | unknownNode id => "node `" ++ id ++ "` is not part of the topology"
  | missingFunder => "topology has no genesis"

def causes : StakingError → List String
  | api _ cause => [cause.message]
  | acceptance cause => cause.causes
  | balance cause => cause.causes
  | fleet cause => cause.causes
  | configuration _ | validatorMissing _ _ | peerMismatch _ _ | amounts _ | unknownNode _
  | missingFunder => []

end StakingError

/-- **Everything a staking run needs** beside the node it runs on. -/
structure StakingSettings where
  chainIds : ChainIds
  acceptance : PollSettings
  /-- For the export that seeds the platform lane of a validator. -/
  exportAcceptance : PollSettings
  schedule : StakingSchedule
  deriving DecidableEq, Repr

namespace StakingSettings

/-- The asset that runs move. -/
def asset (settings : StakingSettings) : String := settings.chainIds.assetAlias

/-- The settings of a run on the local network. -/
def ofEnvironment (env : Environment) : Checked StakingSettings := do
  return {
    chainIds := .localNet
    acceptance := ← env.acceptanceSettings
    exportAcceptance := ← env.exportSettings
    schedule := env.schedule }

end StakingSettings

/-- **A step of a run**: a call to a node, reported under its own name when
it fails. -/
def stepCall {κ : Type} (client : κ) (call : Call) :
    Attempt (Timed (Clients κ)) StakingError call.Result :=
  (callNode client call).wrap (.api call.method)

end LedgerNet
