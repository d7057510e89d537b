import LedgerNet.Rehearsal.FleetSteps
import LedgerNet.Staking.Peers

/-!
# Rehearsing a staking run

A network in memory, a script in front of each of its nodes, and a roster
of participants that is built up as the rehearsal goes on. Some steps change
the network behind the back of everybody, some do what a staking run does,
and some only look.
-/

namespace LedgerNet.Plan

open Json Report

/-- **A staking run in memory.** -/
structure StakingRun where
  site : Site Nat
  roster : Roster Nat
  time : Timeline (Sessions LocalClient LocalNetwork)

/-- What stays the same from step to step. -/
structure Stage where
  genesis : Genesis
  settings : StakingSettings
  /-- The scripts in front of nodes; without any, calls are not noted. -/
  scripts : Option (Book Script)
  /-- Whether calls are told of. -/
  tellsCalls : Bool

/-- What the network of a rehearsal runs on. -/
def Stage.deployment (stage : Stage) : Deployment Nat (Sessions LocalClient LocalNetwork) :=
  LocalNetwork.scripted fun id => stage.scripts.map fun book => (book.get? id).getD .blank

namespace StakingRun

def network (run : StakingRun) : LocalNetwork := run.time.world.world

/-- The run with its network changed. -/
def withNetwork (run : StakingRun) (network : LocalNetwork) : StakingRun :=
  { run with time := { run.time with world := { run.time.world with world := network } } }

/-- What is told of every step, begun at a point in time. -/
def told (run : StakingRun) (stage : Stage) (begun : Duration) : Members :=
  let ledger := run.network.ledger
  [("elapsed_ms", ms (run.time.now.minusOrZero begun)),
    ("balances", obj (run.roster.participants.map fun node => (node.id,
      .array [amt (ledger.xBalance node.xAddress), amt (ledger.pBalance node.pAddress)]))),
    ("genesis_x", amt (ledger.xBalance stage.genesis.funded.address))]
    ++ if stage.tellsCalls then [("calls", callBookJson run.time.world.notesByName)] else []

end StakingRun

namespace Stage

variable (stage : Stage) (run : StakingRun)

/-- A step that ends in a run. -/
def finish {ε : Type} [HasFault ε] (outcome : Outcome ε Members) (after : StakingRun) :
    Reading (Telling × StakingRun) :=
  return (.of outcome (after.told stage run.time.now),
    { after with time := { after.time with world := after.time.world.withoutNotes } })

/-- A step that tells something. -/
def tells (members : Members) (after : StakingRun) : Reading (Telling × StakingRun) :=
  stage.finish run (.ok members : Outcome StakingError Members) after

/-- A step that only looks. -/
def looks (members : Members) : Reading (Telling × StakingRun) := stage.tells run members run

/-- A step that looks for something. -/
def finds {α : Type} (found : Except StakingError α) (members : α → Members) :
    Reading (Telling × StakingRun) :=
  stage.finish run ((found.map members).mapError Failure.error) run

/-- A step that changes the network directly. -/
def controls (network : LocalNetwork) : Reading (Telling × StakingRun) :=
  stage.tells run [] (run.withNetwork network)

/-- A step that acts on the site. What it succeeded with may go into the
run. -/
def acts {ε α : Type} [HasFault ε] (p : Action (Site Nat) (Network Nat) ε α)
    (members : α → Members) (keep : α → StakingRun → StakingRun) : Reading (Telling × StakingRun) :=
  let ((outcome, site), time) := (p.start run.site).run stage.deployment.handler run.time
  let after := { run with site, time }
  stage.finish run (outcome.map members)
    (match outcome with | .ok value => keep value after | .error _ => after)

/-- A step that does something to the fleet. -/
def actsOnFleet {α : Type} (p : FleetAction Nat FleetError α) (members : α → Members) :
    Reading (Telling × StakingRun) :=
  stage.acts run (Site.ofFleet p) members fun _ after => after

/-- A step whose result is the new roster. -/
def casts (p : SiteAction Nat (Roster Nat)) : Reading (Telling × StakingRun) :=
  stage.acts run p (fun _ => succeeded) fun roster after => { after with roster }

/-- A step that changes the roster. -/
def enters {α : Type} (p : RosterAction Nat α) (members : α → Members) :
    Reading (Telling × StakingRun) :=
  let ((outcome, roster), time) :=
    (p.start run.roster).run (Timeline.handler stage.deployment.answer) run.time
  stage.finish run (outcome.map members) { run with roster, time }

/-- A step that calls nodes. -/
def calls {ε : Type} [HasFault ε] (p : Attempt (Concurrent (Clients Nat)) ε Unit) :
    Reading (Telling × StakingRun) :=
  let (outcome, time) := p.run.run (Concurrent.handler stage.deployment.answer) run.time
  stage.finish run (outcome.map fun _ => succeeded) { run with time }

/-- A step of a participant. -/
def byParticipant (id : String)
    (p : Participant Nat → Attempt (Timed (Clients Nat)) StakingError Unit) :
    Reading (Telling × StakingRun) :=
  stage.calls run (Concurrent.lift (Attempt.ofExcept (run.roster.participant id) >>= p))

/-- A step of the funder. -/
def byFunder (p : Funder Nat → Attempt (Concurrent (Clients Nat)) StakingError Unit) :
    Reading (Telling × StakingRun) :=
  stage.calls run (Attempt.ofExcept run.roster.funder >>= p)

/-! ## The steps -/

/-- Steps that change the network directly. -/
def controlStep? (plan : Json) (id : String) : Reading (Option LocalNetwork) := do
  let network := run.network
  let onLedger (ledger : Ledger) : Option LocalNetwork := some { network with ledger }
  match ← plan.textAt "do" with
  | "never_ready" => return network.holdBack id
  | "ready_again" => return network.release id
  | "script_x" =>
    return onLedger (network.ledger.scriptX ((← plan.need "statuses" asTexts).map XStatus.ofName))
  | "script_p" =>
    return onLedger (network.ledger.scriptP ((← plan.need "statuses" asTexts).map PStatus.ofName))
  | "hide_validators" => return onLedger network.ledger.hideValidators
  | "set_peers" =>
    let peers ← plan.need "peers" asItems
    return network.setPeers (← plan.need "ip" asIp) (peers.map ScriptedReply.peerOf)
  | _ => return none

/-- Steps that only look. -/
def lookStep? (plan : Json) (id : String) : Reading (Option Members) := do
  let network := run.network
  let ledger := network.ledger
  let address ← plan.textAt "address"
  match ← plan.textAt "do" with
  | "started" => return some [("started", orNull localServiceJson (network.services.get? id))]
  | "services" => return some (localServicesMembers network run.site.definition)
  | "nodes" =>
    return some [("nodes", txts (run.roster.participants.map Participant.id)),
      ("tracked", txts run.site.fleet.ids), ("asset", txt run.roster.settings.asset)]
  | "polls" => return some [("polls", .ofNat (ledger.polls.getD (← plan.textAt "tx") 0))]
  | "history" => return some [("history", .array ((ledger.history.getD address []).map amt))]
  | "ledger" =>
    return some [("X", amt (ledger.xBalance address)), ("P", amt (ledger.pBalance address)),
      ("C", num (ledger.cBalance address))]
  | "delegations" =>
    return some [("delegations", .array (ledger.delegations.map StakeRequest.note))]
  | _ => return none

/-- Steps that start and stop nodes. -/
def siteStep? (plan : Json) (id : String) : Reading (Option (Reading (Telling × StakingRun))) := do
  let d := run.site.definition
  match ← plan.textAt "do" with
  | "start" => return stage.actsOnFleet run (Fleet.startNetwork d) fun _ => succeeded
  | "create" =>
    match d.node? id with
    | none => return stage.looks run (notDefined id)
    | some node =>
      return stage.actsOnFleet run (Fleet.create d node) fun tracked =>
        [("ip", txt tracked.ip.text)]
  | "orchestrator_remove" => return stage.actsOnFleet run (Fleet.remove id) fun _ => succeeded
  | "define" =>
    let params ← readNode (plan.part "node")
    match d.add params with
    | .error cause => return stage.finish run (Outcome.failed cause) run
    | .ok definition =>
      return stage.tells run
        [("bootstrap_ids", txt (NodeConfig.mk params d.chain).bootstrapIds)]
        { run with site := { run.site with definition } }
  | "bootstrap_added" =>
    let image ← plan.opt "image" asText
    let count ← plan.needNat "count"
    return stage.acts run (Site.addNodes environment image count)
      (fun added => [("added", .array (added.map fun node => txts [node.id, node.ip.text]))])
      fun _ after => after
  | "funded_topology" =>
    return stage.casts run (LocalNetwork.fundedRoster stage.genesis (← readAmounts plan))
  | "scenario" =>
    return stage.casts run
      ((← readScenario plan).run environment stage.genesis stage.settings)
  | _ => return none

/-- Steps that change the roster, or look into it. -/
def rosterStep? (plan : Json) (id : String) :
    Reading (Option (Reading (Telling × StakingRun))) := do
  match ← plan.textAt "do" with
  | "add_node" =>
    return stage.enters run (Roster.enroll run.site.fleet id (← readUser plan)) participantMembers
  | "node" => return stage.finds run (run.roster.participant id) participantMembers
  | "add_genesis" =>
    let key ← plan.optD "key" asText stage.genesis.funded.privateKey
    return stage.enters run (Roster.appointFunder run.site.fleet id (← readUser plan) key)
      fun funder =>
        [("id", txt funder.id), ("address", txt funder.address), ("debug", txt funder.debug)]
  | "genesis" =>
    return stage.finds run run.roster.funder fun funder =>
      [("id", txt funder.id), ("address", txt funder.address)]
  | "load_defined" =>
    return stage.enters run (Roster.enrollDefined run.site.fleet run.site.definition)
      fun _ => succeeded
  | "forget_node" =>
    let (forgotten, roster) := run.roster.forget id
    return stage.tells run [("forgotten", orNull (fun node => txt node.id) forgotten)]
      { run with roster }
  | _ => return none

/-- Steps that move money, and steps that compare what they left. -/
def moneyStep (plan : Json) (id : String) : Reading (Telling × StakingRun) := do
  let address ← plan.textAt "address"
  let addresses ← plan.optD "addresses" asTexts []
  let amount ← plan.optD "amount" asAmount 0
  match ← plan.textAt "do" with
  | "mint_x" =>
    let (outcome, network) := run.network.onLedger (Ledger.mint address amount)
    stage.finish run (outcome.map fun _ => []) (run.withNetwork network)
  | "fund_x" =>
    stage.byFunder run fun funder => Concurrent.lift (funder.fundXAddresses addresses amount)
  | "fund_many" =>
    let times ← plan.needNat "times"
    stage.byFunder run fun funder => funder.fundXAddressesMany addresses amount times
  | "fund_c" =>
    stage.byFunder run fun funder => Concurrent.lift (funder.fundCAddresses addresses amount)
  | "move_to_c" =>
    let fee ← plan.need "fee" asAmount
    stage.byFunder run fun funder => Concurrent.lift (funder.moveHalfToC address fee)
  | "validator" =>
    let amounts ← readAmounts plan
    stage.byParticipant run id (·.becomeValidator amounts)
  | "delegator" =>
    let amounts ← readAmounts plan
    let validator ← plan.optD "validator" asText (LocalNetwork.nodeIdOf Scenario.validatorId)
    stage.byParticipant run id (·.becomeDelegator amounts validator)
  | "leftover" =>
    let amounts ← readAmounts plan
    stage.byParticipant run id (·.returnLeftover amounts)
  | "check_balance" =>
    let lane ← plan.need "lane" asLane
    let expected ← plan.need "expected" asDigits
    match run.roster.participant id with
    | .error cause => stage.finish run (Outcome.failed cause) run
    | .ok node =>
      stage.calls run
        (Concurrent.lift (Balance.check (node.balances lane) lane address expected))
  | "peers" =>
    let find (name : String) : Reading (Except StakingError (List (Participant Nat))) := do
      return (← plan.need name asTexts).mapM run.roster.participant
    let nodes ← find "nodes"
    let expected ← find "expected"
    stage.calls run (Concurrent.lift do
      Peers.verify (← Attempt.ofExcept nodes) (← Attempt.ofExcept expected))
  | other => .error other

end Stage

/-- **One step of a staking run.** -/
def stakingStep (stage : Stage) : Stepper StakingRun := fun run plan => do
  let id ← plan.textAt "id"
  if let some network ← Stage.controlStep? run plan id then stage.controls run network
  else if let some members ← Stage.lookStep? run plan id then stage.looks run members
  else if let some step ← stage.siteStep? run plan id then step
  else if let some step ← stage.rosterStep? run plan id then step
  else stage.moneyStep run plan id

/-- The network of a plan, or that of the usual scenario. -/
def readStakingDefinition (plan : Json) : Reading (Except DefinitionError Definition) := do
  match plan.get? "nodes" with
  | some _ => readDefinition plan
  | none =>
    return Scenario.usual.definition environment
      { environment.networkParams with image := LocalNetwork.image } .localNet

def rehearseStaking (plan : Json) : Reading Json := do
  match ← readStakingDefinition plan with
  | .error cause => return obj (faultMembers cause)
  | .ok definition =>
    let plain ← plan.optD "plain" asBool false
    let settings ← readStakingSettings (plan.part "settings") LocalNetwork.stakingSettings
    let scripts ← readScripts plan "faults"
    let stage : Stage := {
      genesis := .localNet, settings
      scripts := if plain then none else some scripts
      tellsCalls := !(← plan.optD "quiet" asBool false) }
    let network := LocalNetwork.ofGenesis stage.genesis (← plan.optD "fee" asAmount Units.one)
    let start : StakingRun := {
      site := ⟨definition, .empty LocalNetwork.fleetSettings⟩
      roster := .empty settings
      time := Timeline.start epoch (Sessions.ofWorld network) }
    return obj [("steps", ← (stakingStep stage).tell start plan)]

end LedgerNet.Plan
