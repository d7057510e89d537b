import LedgerNet.Definition.Preset
import LedgerNet.Staking.Expansion
import LedgerNet.Staking.Roster

/-!
# The staking scenario

The bootstrap stakers, a node that will validate and a node that will
delegate. The first one stakes, the second one delegates to it, both bring
back what they did not bond, and in the end fresh nodes join the network.
-/

namespace LedgerNet

/-- **A staking scenario.** -/
structure Scenario where
  amounts : StakeAmounts
  /-- How many nodes join in the end. -/
  addedNodes : Nat
  /-- The image of the nodes that the scenario adds; the network's if there
  is none. -/
  image : Option String
  deriving DecidableEq, Repr

namespace Scenario

/-- The scenario when nobody picks anything. -/
def usual : Scenario := ⟨.usual, 2, none⟩

/-- The node that becomes a validator. -/
def validatorId : String := "validator-node"

/-- The node that delegates to it. -/
def delegatorId : String := "delegator-node"

def validatorUser : User := ⟨"staker", "test34test!23"⟩
def delegatorUser : User := ⟨"delegator", "test34test!23"⟩
def funderUser : User := ⟨"genesis", "MyNameIs!Jeff"⟩

variable {κ : Type}

/-- What is asked for of one of the two staking nodes. -/
def stakingNode (scenario : Scenario) (env : Environment) (id : String) : NodeParams :=
  { NodeParams.plain env id with image := scenario.image, staking := true }

/-- **The network of a scenario**: that of the genesis stakers at the
scenario's fee, and the two staking nodes. -/
def definition (scenario : Scenario) (env : Environment) (params : NetworkParams)
    (genesis : Genesis) : Except DefinitionError Definition := do
  let bootstrap ← bootstrappingNetwork env { params with txFee := scenario.amounts.fee } genesis
  bootstrap.addAll ([validatorId, delegatorId].map (scenario.stakingNode env))

/-- **The staking itself**, on a network that is running. -/
def stake (scenario : Scenario) (genesis : Genesis) (fleet : Fleet κ) : RosterAction κ Unit := do
  let amounts := scenario.amounts
  let validator ← Roster.enroll fleet validatorId validatorUser
  let delegator ← Roster.enroll fleet delegatorId delegatorUser
  let funder ← Roster.appointFunder fleet validatorId funderUser genesis.funded.privateKey
  Action.lift do
    funder.fundXAddresses [validator.xAddress, delegator.xAddress] amounts.total
    validator.becomeValidator amounts
    delegator.becomeDelegator amounts validator.nodeId
    validator.returnLeftover amounts
    delegator.returnLeftover amounts

/-- **Starts a network and drives the whole scenario** against it. -/
def run (scenario : Scenario) (env : Environment) (genesis : Genesis)
    (settings : StakingSettings) : SiteAction κ (Roster κ) := do
  Action.ofExcept (scenario.amounts.validate.mapError .amounts)
  (Site.ofFleet (Fleet.startNetwork (← Action.state).definition)).wrap .fleet
  let staked := (scenario.stake genesis (← Action.state).fleet).alone (Roster.empty settings)
  let ((), roster) ← Action.lift (Network.liftTimed staked)
  let _ ← Site.addNodes env scenario.image scenario.addedNodes
  return roster

end Scenario

end LedgerNet
