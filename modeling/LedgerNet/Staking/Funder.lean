import LedgerNet.Staking.Error

/-!
# The funder

The node that holds the account with the first funds, under a user of its
own, pays for all others. It sends to exchange addresses one after the
other, sends many outputs at once, or moves funds to contract addresses
through an export on one lane and an import on the other.

The contract lane does not tell when an import has settled. There the funder
waits for a fixed part of the acceptance timeout.
-/

namespace LedgerNet

/-- **The node with the funds.** -/
structure Funder (κ : Type) where
  id : String
  client : κ
  user : User
  privateKey : String
  /-- The funded address on the exchange lane. -/
  address : String
  settings : StakingSettings

namespace Funder

variable {κ : Type}

/-- What is shown of the funder. -/
def debug (funder : Funder κ) : String :=
  "Genesis \x7b id: " ++ Text.quote funder.id ++ ", address: " ++ Text.quote funder.address
    ++ ", .. \x7d"

/-- **Makes a node the funder**: creates the user and imports the key of the
funded account. -/
def importFunds (id : String) (client : κ) (user : User) (privateKey : String)
    (settings : StakingSettings) : Attempt (Timed (Clients κ)) StakingError (Funder κ) := do
  let _ ← stepCall client (.createUser user)
  let address ← stepCall client (.xImportKey user privateKey)
  return ⟨id, client, user, privateKey, address, settings⟩

variable (funder : Funder κ)

/-- A call to the node, as a step of the run. -/
def call (call : Call) : Attempt (Timed (Clients κ)) StakingError call.Result :=
  stepCall funder.client call

/-- The balances that the node reports on the exchange lane. -/
def balances : BalanceSource (Clients κ) := nodeBalance funder.client .x funder.settings.asset

/-- Waits for a transaction on the exchange lane. -/
def awaitX (tx : TxId) : Attempt (Timed (Clients κ)) StakingError Unit :=
  (Acceptance.await (nodeStatus funder.client .x) tx .x funder.settings.acceptance).wrap
    .acceptance

/-- **Sends an amount to one exchange address** and compares its balance. -/
def fundX (amount : Amount) (address : String) : Attempt (Timed (Clients κ)) StakingError Unit := do
  let tx ← funder.call (.xSend funder.user amount funder.settings.asset address)
  funder.awaitX tx
  (Balance.check funder.balances .x address amount.toNat).wrap .balance

/-- Sends an amount to each address in turn. -/
def fundXAddresses (addresses : List String) (amount : Amount) :
    Attempt (Timed (Clients κ)) StakingError Unit :=
  addresses.forM (funder.fundX amount)

/-- Sends several outputs of one amount to an address, in one
transaction. -/
def sendOutputs (amount : Amount) (times : Nat) (address : String) :
    Attempt (Timed (Clients κ)) StakingError Unit := do
  let outputs := List.replicate times ⟨funder.settings.asset, amount, address⟩
  let tx ← funder.call (.xSendMultiple funder.user outputs)
  funder.awaitX tx

/-- **Sends several outputs to each address in turn** and compares all
balances together in the end. -/
def fundXAddressesMany (addresses : List String) (amount : Amount) (times : Nat) :
    Attempt (Concurrent (Clients κ)) StakingError Unit := do
  Concurrent.lift (addresses.forM (funder.sendOutputs amount times))
  let expected := amount.toNat * times
  (Balance.checkAll funder.balances .x (addresses.map fun address => (address, expected))).wrap
    .balance

/-- Moves an amount to one contract address. -/
def fundC (amount : Amount) (address : String) : Attempt (Timed (Clients κ)) StakingError Unit := do
  let exported ← funder.call (.xExport funder.user amount (Lane.c.address funder.address))
  funder.awaitX exported
  let imported ← funder.call (.cImport funder.user address Lane.x.letter)
  (Acceptance.awaitOrPause (nodeStatus funder.client .c) imported .c
    funder.settings.acceptance).wrap .acceptance

/-- **Moves an amount to each contract address in turn.** -/
def fundCAddresses (addresses : List String) (amount : Amount) :
    Attempt (Timed (Clients κ)) StakingError Unit := do
  let _ ← funder.call (.cImportKey funder.user funder.privateKey)
  addresses.forM (funder.fundC amount)

/-- **Moves half of what can be spent** to a contract address. -/
def moveHalfToC (address : String) (fee : Amount) :
    Attempt (Timed (Clients κ)) StakingError Unit := do
  let balance : Amount ← funder.call (.xBalance funder.address funder.settings.chainIds.assetId)
  funder.fundCAddresses [address] (balance.minusOrZero fee / 2)

end Funder

end LedgerNet
