import LedgerNet.Staking.Error

/-!
# Participants

A participant is a running node with a keystore user and an address on each
of the two lanes that stakes move between. It can become a validator, become
a delegator, and bring back what it did not bond.

No step is taken before the one before it is known to have settled: every
transaction is awaited before the next one is handed in, and the balances
are compared before anything is built on them.
-/

namespace LedgerNet

/-- **A running node that takes part in staking.** -/
structure Participant (κ : Type) where
  id : String
  ip : Ip
  client : κ
  user : User
  /-- The identity that the node reports. -/
  nodeId : String
  xAddress : String
  pAddress : String
  settings : StakingSettings

namespace Participant

variable {κ : Type}

/-- What is shown of a participant. -/
def debug (node : Participant κ) : String :=
  "RunningNode \x7b id: " ++ Text.quote node.id ++ ", ip: " ++ node.ip.text
    ++ ", node_id: " ++ Text.quote node.nodeId ++ ", x_address: " ++ Text.quote node.xAddress
    ++ ", p_address: " ++ Text.quote node.pAddress ++ ", .. \x7d"

/-- **Enters a running node**: asks for its identity, creates the user and an
address for it on each lane. -/
def enroll (tracked : TrackedNode κ) (user : User) (settings : StakingSettings) :
    Attempt (Timed (Clients κ)) StakingError (Participant κ) := do
  let nodeId ← stepCall tracked.client .nodeId
  let _ ← stepCall tracked.client (.createUser user)
  let xAddress ← stepCall tracked.client (.xCreateAddress user)
  let pAddress ← stepCall tracked.client (.pCreateAddress user)
  return ⟨tracked.id, tracked.ip, tracked.client, user, nodeId, xAddress, pAddress, settings⟩

variable (node : Participant κ)

/-- A call to the node, as a step of the run. -/
def call (call : Call) : Attempt (Timed (Clients κ)) StakingError call.Result :=
  stepCall node.client call

/-- The balances that the node reports. -/
def balances (lane : Lane) : BalanceSource (Clients κ) :=
  nodeBalance node.client lane node.settings.asset

/-- Waits for a transaction on a lane. -/
def awaitTx (lane : Lane) (tx : TxId) (settings : PollSettings) :
    Attempt (Timed (Clients κ)) StakingError Unit :=
  (Acceptance.await (nodeStatus node.client lane) tx lane settings).wrap .acceptance

/-- The address of the participant whose balance on a lane is looked at. -/
def addressOn : Lane → String
  | .p => node.pAddress
  | .x | .c => node.xAddress

/-- Compares the participant's own balance on a lane. -/
def expect (lane : Lane) (expected : Amount) : Attempt (Timed (Clients κ)) StakingError Unit :=
  (Balance.check (node.balances lane) lane (node.addressOn lane) expected.toNat).wrap .balance

/-- **Moves the seed** to the platform lane and compares both balances. -/
def seed (amounts : StakeAmounts) (exportSettings : PollSettings) :
    Attempt (Timed (Clients κ)) StakingError Unit := do
  Attempt.ofExcept (amounts.validateStake.mapError .amounts)
  let exported ← node.call
    (.xExport node.user (← Attempt.ofChecked amounts.seedExport) node.pAddress)
  node.awaitTx .x exported exportSettings
  let imported ← node.call
    (.pImport node.user node.pAddress (node.settings.chainIds.ofLane .x))
  node.awaitTx .p imported node.settings.acceptance
  node.expect .p amounts.seed
  node.expect .x (← Attempt.ofChecked amounts.xAfterSeed)

/-- A request to stake for a period that begins some time from now, and the
point in time at which it begins. -/
def stakeRequest (nodeId : String) (amount : Amount) (period : Duration) :
    Attempt (Timed (Clients κ)) StakingError (StakeRequest × Duration) := do
  let delay := node.settings.schedule.startDelay
  let start ← Attempt.ofChecked ((← timeOfDay).plus delay)
  let finish ← Attempt.ofChecked (start.plus period)
  let begins ← Attempt.ofChecked ((← elapsed).later delay)
  return (⟨nodeId, node.pAddress, amount, start.seconds, finish.seconds⟩, begins)

/-- Waits until a stake has begun, and a grace longer. -/
def awaitBegin (begins : Duration) : Attempt (Timed (Clients κ)) StakingError Unit := do
  sleepUntil (← Attempt.ofChecked (begins.later node.settings.schedule.startGrace))

/-- **Becomes a validator**: moves the seed, bonds the stake, waits for the
validation to begin, and finds itself among the validators. -/
def becomeValidator (amounts : StakeAmounts) : Attempt (Timed (Clients κ)) StakingError Unit := do
  node.seed amounts node.settings.exportAcceptance
  let schedule := node.settings.schedule
  let (request, begins) ← node.stakeRequest node.nodeId amounts.stake schedule.validationPeriod
  let tx ← node.call (.addValidator node.user request schedule.feeRate)
  node.awaitTx .p tx node.settings.acceptance
  node.awaitBegin begins
  let validators : List Validator ← node.call .validators
  if validators.any (·.nodeId == node.nodeId) then
    node.expect .p (← Attempt.ofChecked amounts.pAfterStake)
  else .fail (.validatorMissing node.nodeId (validators.map Validator.nodeId))

/-- **Becomes a delegator** of a validator. -/
def becomeDelegator (amounts : StakeAmounts) (validator : String) :
    Attempt (Timed (Clients κ)) StakingError Unit := do
  node.seed amounts node.settings.acceptance
  let (request, begins) ←
    node.stakeRequest validator amounts.stake node.settings.schedule.delegationPeriod
  let tx ← node.call (.addDelegator node.user request)
  node.awaitTx .p tx node.settings.acceptance
  node.awaitBegin begins
  node.expect .p (← Attempt.ofChecked amounts.pAfterStake)

/-- **Brings back what is not bonded** and leaves the platform lane empty. -/
def returnLeftover (amounts : StakeAmounts) : Attempt (Timed (Clients κ)) StakingError Unit := do
  Attempt.ofExcept (amounts.validateLeftover.mapError .amounts)
  let exported ← node.call
    (.pExport node.user node.xAddress (← Attempt.ofChecked amounts.leftoverExport))
  node.awaitTx .p exported node.settings.acceptance
  let imported ← node.call
    (.xImport node.user node.xAddress (node.settings.chainIds.ofLane .p))
  node.awaitTx .x imported node.settings.acceptance
  node.expect .p 0
  node.expect .x (← Attempt.ofChecked amounts.xAfterLeftover)

end Participant

end LedgerNet
