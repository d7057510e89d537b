import LedgerNet.Api.Contract
import LedgerNet.Definition.Preset
import LedgerNet.Json.Access
import LedgerNet.Rehearsal.ScriptedRunner
import LedgerNet.Staking.Scenario

/-!
# Rehearsal plans

A rehearsal is planned in JSON: the nodes and their network, the amounts that
are to be moved, how long to wait, and what scripted nodes and runners
answer. What a plan leaves out is as it usually is, for an environment in
which nothing is set.
-/

namespace LedgerNet.Plan

open Json

/-- The environment that a plan is read in. -/
def environment : Environment := .empty

def asMillis (j : Json) : Option Duration := (asNat j).map Duration.ofMillis

/-- A number of milliseconds that must be there. -/
def needMillis (j : Json) (name : String) : Reading Duration :=
  return .ofMillis (← j.needNat name)

def readParams (j : Json) : Reading NetworkParams := do
  let usual := environment.networkParams
  return {
    image := ← j.optD "image" asText usual.image
    txFee := ← j.optD "tx_fee" asAmount usual.txFee
    sampleSize := UInt32.ofNat (← j.optD "sample" asNat usual.sampleSize.toNat)
    quorumSize := UInt32.ofNat (← j.optD "quorum" asNat usual.quorumSize.toNat) }

def asCredentials (j : Json) : Option Credentials := do
  return ⟨← (j.get? "node_id").bind asText, ← (j.get? "tls_cert").bind asText,
    ← (j.get? "tls_key").bind asText⟩

/-- A node; one with a position is a bootstrap node. -/
def readNode (j : Json) : Reading NodeParams := do
  let usual := NodeParams.plain environment (← j.need "id" asText)
  return { usual with
    image := ← j.opt "image" asText
    staking := ← j.optD "staking" asBool usual.staking
    credentials := ← j.opt "credentials" asCredentials
    role := (← j.opt "ordinal" asNat).elim .regular .bootstrap
    bootstrapAttempts :=
      UInt32.ofNat (← j.optD "attempts" asNat usual.bootstrapAttempts.toNat)
    logLevel := ← j.optD "log_level" asText usual.logLevel }

def readNodes (j : Json) : Reading (List NodeParams) := do
  (← j.optD "nodes" asItems []).mapM readNode

/-- **The network of a plan**, unless its nodes do not make one. -/
def readDefinition (j : Json) : Reading (Except DefinitionError Definition) := do
  let params ← readParams (j.part "params")
  let nodes ← readNodes j
  return (Definition.ofParams params).bind fun empty => empty.addAll nodes

def readAmounts (j : Json) : Reading StakeAmounts := do
  let usual := StakeAmounts.usual
  return ⟨← j.optD "total" asAmount usual.total, ← j.optD "seed" asAmount usual.seed,
    ← j.optD "stake" asAmount usual.stake, ← j.optD "fee" asAmount usual.fee⟩

def readScenario (j : Json) : Reading Scenario := do
  return ⟨← readAmounts j, ← j.optD "added" asNat Scenario.usual.addedNodes,
    ← j.opt "image" asText⟩

def readBudget (j : Json) : Reading PollBudget := do
  return ⟨← needMillis j "interval_ms", UInt32.ofNat (← j.needNat "max_attempts")⟩

def readPolls (j : Json) : Reading PollSettings := do
  return ⟨← needMillis j "interval_ms", ← needMillis j "timeout_ms"⟩

/-- The times of stakes: all of them, or none. -/
def readSchedule (j : Json) : Reading StakingSchedule := do
  return {
    startDelay := ← needMillis j "start_delay_ms"
    startGrace := ← needMillis j "start_grace_ms"
    validationPeriod := .ofSeconds (← j.needNat "validation_s")
    delegationPeriod := .ofSeconds (← j.needNat "delegation_s")
    feeRate := ← j.need "fee_rate" fun rate => (asText rate).bind Rate.ofText? }

/-- The local genesis, or one with other stakers. -/
def readGenesis (j : Json) : Reading Genesis := do
  match ← j.opt "stakers" asItems with
  | none => return .localNet
  | some items =>
    let stakers ← items.mapM fun staker => do
      return Staker.mk (← staker.need "node_id" asText) (← staker.opt "credentials" asCredentials)
    return { Genesis.localNet with stakers }

/-! ## Scripts -/

/-- An error that is planned for a call. -/
def asApiError (j : Json) : Option ApiError := do
  let field name := (j.get? name).bind asText
  match ← field "err" with
  | "Rpc" => return .rpc (← field "method") (← (j.get? "code").bind asInt) (← field "message")
  | "EmptyReply" => return .emptyReply (← field "method")
  | "Malformed" => return .malformed (← field "method") (← field "field") (← field "value")
  | "Unsupported" => return .unsupported (← field "method")
  | _ => none

/-- **A planned reply**: an error, a crash, a call handed on, or a value. -/
def replyOf (j : Json) : ScriptedReply :=
  match asApiError j, (j.get? "panic").bind asText, j.get? "pass" with
  | some cause, _, _ => .fail cause
  | _, some reason, _ => .breakDown reason
  | _, _, some (.bool true) => .pass
  | _, _, _ => .value j

/-- A planned outcome: an error, a crash, or what is read from the value. -/
def asOutcome {α : Type} (read : Json → Option α) (j : Json) : Option (Outcome ApiError α) :=
  match replyOf j with
  | .fail cause => some (Outcome.failed cause)
  | .breakDown reason => some (Outcome.crashed (.breakdown reason))
  | _ => (read j).map .ok

/-- The state of a transaction. -/
def asState (j : Json) : Option AcceptanceState :=
  match asText j, (j.get? "abandoned").bind asText with
  | some "accepted", _ => some .accepted
  | some "pending", _ => some .pending
  | none, some reason => some (.abandoned reason)
  | _, _ => none

def readScript (j : Json) : Reading Script := do
  let queues ← j.optD "script" (asBook asItems) []
  let fallback ← j.optD "fallback" (asBook some) []
  return ⟨⟨queues.map fun (name, queue) => (name, queue.map replyOf)⟩,
    ⟨fallback.map fun (name, reply) => (name, replyOf reply)⟩⟩

/-- Scripts by the name of what they stand in front of. -/
def readScripts (j : Json) (name : String) : Reading (Book Script) := do
  let entries ← j.optD name (asBook some) []
  return ⟨← entries.mapM fun (key, script) => return (key, ← readScript script)⟩

/-- **What is planned for services and their clients.** -/
def readRunner (j : Json) : Reading RunnerPlan := do
  let services := j.part "lifecycle"
  return {
    startFailures := ⟨← services.optD "start_errors" (asBook asText) []⟩
    stopFailures := ⟨← services.optD "stop_errors" (asBook asText) []⟩
    addresses := ⟨← services.optD "ips" (asBook asIp) []⟩
    bindFailures := ⟨← j.optD "connect_errors" (asBook asApiError) []⟩
    scripts := ← readScripts j "clients" }

/-! ## Calls -/

def readUser (j : Json) : Reading User := do
  return ⟨← j.optD "user" asText "user", ← j.optD "password" asText "pw"⟩

def readOutput (j : Json) : Reading SendOutput := do
  return ⟨← j.textAt "asset_id", ← j.need "amount" asAmount, ← j.textAt "to"⟩

def readStake (j : Json) : Reading StakeRequest := do
  return ⟨← j.textAt "node_id", ← j.textAt "to", ← j.need "amount" asAmount,
    ← j.optD "start" asDigits 0, ← j.optD "end" asDigits 0⟩

/-- **A call to a node**, by its name on the wire and its arguments. -/
def readCall (j : Json) : Reading Call := do
  let user ← readUser j
  let recipient ← j.textAt "to"
  let amount ← j.optD "amount" asAmount 0
  let source ← j.textAt "source"
  let address ← j.textAt "address"
  match ← j.textAt "method" with
  | "info.getNodeID" => return .nodeId
  | "info.isBootstrapped" => return .isBootstrapped (← j.need "lane" asLane)
  | "info.peers" => return .peers
  | "keystore.createUser" => return .createUser user
  | "avm.createAddress" => return .xCreateAddress user
  | "avm.importKey" => return .xImportKey user (← j.textAt "key")
  | "avm.send" => return .xSend user amount (← j.textAt "asset") recipient
  | "avm.sendMultiple" =>
    return .xSendMultiple user (← (← j.need "outputs" asItems).mapM readOutput)
  | "avm.exportAVAX" => return .xExport user amount recipient
  | "avm.importAVAX" => return .xImport user recipient source
  | "avm.getTxStatus" => return .xStatus (← j.textAt "tx")
  | "avm.getBalance" => return .xBalance address (← j.textAt "asset")
  | "platform.createAddress" => return .pCreateAddress user
  | "platform.importAVAX" => return .pImport user recipient source
  | "platform.exportAVAX" => return .pExport user recipient amount
  | "platform.addValidator" =>
    return .addValidator user (← readStake j)
      (← j.need "rate" fun r => (asText r).bind Rate.ofText?)
  | "platform.addDelegator" => return .addDelegator user (← readStake j)
  | "platform.getTxStatus" => return .pStatus (← j.textAt "tx")
  | "platform.getBalance" => return .pBalance address
  | "platform.getCurrentValidators" => return .validators
  | "avax.importKey" => return .cImportKey user (← j.textAt "key")
  | "avax.import" => return .cImport user recipient source
  | "c.balance" => return .cBalance address
  | other => .error other

/-- **A call of the contract lane**, by its name on the wire. -/
def readContractCall (j : Json) : Reading ContractCall := do
  match ← j.textAt "method" with
  | "eth_getBalance" => return .balance (← j.textAt "address")
  | "eth_blockNumber" => return .blockNumber
  | "eth_sendRawTransaction" =>
    return .send (← j.need "raw_hex" fun raw =>
      (asText raw).bind fun s => Text.readHexBytes? s.toList)
  | "eth_getTransactionReceipt" => return .receipt (← j.textAt "hash")
  | other => .error other

/-- A call of the contract lane in short: what it is, and its argument. -/
def asContractCall (j : Json) : Option ContractCall := do
  let parts ← asTexts j
  let argument := (parts.drop 1).headD ""
  match ← parts.head? with
  | "balance" => some (.balance argument)
  | "block" => some .blockNumber
  | "send" => some (.send (Text.utf8Bytes argument))
  | "receipt" => some (.receipt argument)
  | _ => none

/-! ## Settings -/

def readFleetSettings (j : Json) : Reading FleetSettings := do
  return ⟨← readBudget (j.part "startup"), ← readBudget (j.part "wave"),
    ← needMillis j "grace_ms"⟩

/-- What is read from a member, or the usual if it is left out. -/
def readPart {α : Type} (j : Json) (name : String) (read : Json → Reading α) (usual : α) :
    Reading α :=
  match j.get? name with
  | some part => read part
  | none => return usual

/-- **The settings of a rehearsal**: the usual ones, and what the plan
changes of them. -/
def readStakingSettings (j : Json) (usual : StakingSettings) : Reading StakingSettings := do
  let ids := j.part "chain_ids"
  return {
    chainIds := { usual.chainIds with
      x := ← ids.optD "x" asText usual.chainIds.x
      p := ← ids.optD "p" asText usual.chainIds.p
      assetId := ← ids.optD "asset_id" asText usual.chainIds.assetId
      assetAlias := ← ids.optD "asset" asText usual.chainIds.assetAlias }
    acceptance := ← readPart j "acceptance" readPolls usual.acceptance
    exportAcceptance := ← readPart j "export" readPolls usual.exportAcceptance
    schedule := ← readPart j "schedule" readSchedule usual.schedule }

end LedgerNet.Plan
