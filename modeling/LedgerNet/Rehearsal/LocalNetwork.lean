import LedgerNet.Program.Network
import LedgerNet.Rehearsal.Ledger
import LedgerNet.Rehearsal.Script
import LedgerNet.Staking.Scenario

/-!
# A network in memory

Services that only get an address, and one ledger that all of their nodes
share. A node is ready as soon as its service runs, unless the rehearsal
holds it back. Addresses are handed out in the order of the starts and never
a second time, so there is room for as many starts as a last octet can tell
apart.
-/

namespace LedgerNet

/-- **A service that runs in memory.** -/
structure LocalService where
  ip : Ip
  image : String
  command : List String
  deriving DecidableEq

/-- **The network in memory.** -/
structure LocalNetwork where
  ledger : Ledger
  services : Book LocalService
  /-- The services that were started, in their order. -/
  startOrder : List String
  /-- How often a start was asked for. -/
  startCalls : Nat
  stopped : List String
  /-- The services whose nodes are held back. -/
  heldBack : List String
  /-- What nodes report as their peers. -/
  peers : List (Ip × List ConnectedPeer)

/-- A client of a node in memory. -/
structure LocalClient where
  service : String
  ip : Ip
  deriving DecidableEq

namespace LocalNetwork

/-- **The network in the beginning**: a ledger and no service. -/
def ofGenesis (genesis : Genesis) (fee : Amount) : LocalNetwork :=
  ⟨Ledger.ofGenesis genesis fee, .empty, [], 0, [], [], []⟩

/-- The address of the service that starts after some others. -/
def nextAddress (started : Nat) : Except ServiceError Ip :=
  if started + 2 < 256 then .ok (.v4 (.ofOctets 10 0 0 (started + 2)))
  else .error (.ofText "number too large to fit in target type")

/-- **Starts a service.** -/
def start (spec : ServiceSpec) (network : LocalNetwork) :
    Except ServiceError Ip × LocalNetwork :=
  let network := { network with startCalls := network.startCalls + 1 }
  if (network.services.get? spec.id).isSome then
    (.error (.ofText ("service " ++ spec.id ++ " already running")), network)
  else
    match nextAddress network.startOrder.length with
    | .error cause => (.error cause, network)
    | .ok ip =>
      let command := spec.command ip (spec.mountsIn Conventions.volumeMountpoint)
      (.ok ip, { network with
        startOrder := network.startOrder ++ [spec.id]
        services := network.services.put spec.id ⟨ip, spec.image, command⟩ })

/-- **Stops a service.** -/
def stop (id : String) (network : LocalNetwork) : Except ServiceError Unit × LocalNetwork :=
  if (network.services.get? id).isSome then
    (.ok (), { network with
      services := network.services.erase id
      stopped := network.stopped ++ [id] })
  else (.error (.ofText ("service " ++ id ++ " not running")), network)

/-- **Binds a client** to the service at an address. -/
def connect (ip : Ip) (network : LocalNetwork) : Except ApiError LocalClient :=
  match network.services.entries.find? (·.2.ip == ip) with
  | some (service, _) => .ok ⟨service, ip⟩
  | none => .error (.unsupported "connect")

/-- A change of the ledger, as a change of the network. -/
def onLedger {α : Type} (action : LedgerAction α) (network : LocalNetwork) :
    Outcome ApiError α × LocalNetwork :=
  let ended := action.run.run network.ledger
  (ended.1, { network with ledger := ended.2 })

/-- The identity of the node of a service. -/
def nodeIdOf (service : String) : String := "NodeID-" ++ service

/-- **How nodes in memory answer.** -/
def answer : Proc.Handler (Clients LocalClient) LocalNetwork := fun (client, call) network =>
  match call with
  | .nodeId => (.ok (nodeIdOf client.service), network)
  | .isBootstrapped _ => (.ok (!network.heldBack.contains client.service), network)
  | .peers =>
    (.ok (((network.peers.find? (·.1 == client.ip)).map (·.2)).getD []), network)
  | .createUser user => onLedger (Ledger.createUser user) network
  | .xCreateAddress user => onLedger (Ledger.xCreateAddress user) network
  | .xImportKey user key => onLedger (Ledger.xImportKey user key) network
  | .xSend user amount _ recipient => onLedger (Ledger.xSend user amount recipient) network
  | .xSendMultiple user outputs => onLedger (Ledger.xSendMultiple user outputs) network
  | .xExport user amount recipient => onLedger (Ledger.xExport user amount recipient) network
  | .xImport user recipient _ => onLedger (Ledger.xImport user recipient) network
  | .xStatus tx => onLedger (Ledger.xStatus tx) network
  | .xBalance address _ => (.ok (network.ledger.xBalance address), network)
  | .pCreateAddress user => onLedger (Ledger.pCreateAddress user) network
  | .pImport user recipient _ => onLedger (Ledger.pImport user recipient) network
  | .pExport user recipient amount => onLedger (Ledger.pExport user recipient amount) network
  | .addValidator user request _ => onLedger (Ledger.addValidator user request) network
  | .addDelegator user request => onLedger (Ledger.addDelegator user request) network
  | .pStatus tx => onLedger (Ledger.pStatus tx) network
  | .pBalance address => (.ok (network.ledger.pBalance address), network)
  | .validators => (.ok network.ledger.validators, network)
  | .cImportKey user key => onLedger (Ledger.cImportKey user key) network
  | .cImport user recipient _ => onLedger (Ledger.cImport user recipient) network
  | .cBalance address => (.ok (network.ledger.cBalance address), network)

/-- **The deployment of a network in memory.** -/
def deployment : Deployment LocalClient LocalNetwork where
  answer := answer
  start := start
  stop id _ := stop id
  connect ip network := (network.connect ip, network)

/-! ## What a rehearsal changes directly -/

/-- A node that is never ready. -/
def holdBack (network : LocalNetwork) (service : String) : LocalNetwork :=
  { network with heldBack := service :: network.heldBack }

/-- A node that is ready again. -/
def release (network : LocalNetwork) (service : String) : LocalNetwork :=
  { network with heldBack := network.heldBack.filter (· != service) }

/-- What a node reports as its peers from now on. -/
def setPeers (network : LocalNetwork) (ip : Ip) (peers : List ConnectedPeer) : LocalNetwork :=
  { network with peers := (ip, peers) :: network.peers.filter (·.1 != ip) }

/-! ## Nodes behind scripts -/

/-- **The deployment with a script in front of each node**, taken by the id
of its service. -/
def scripted (scriptOf : String → Option Script) :
    Deployment Nat (Sessions LocalClient LocalNetwork) where
  answer := Sessions.answer answer
  start spec sessions :=
    let started := start spec sessions.world
    (started.1, { sessions with world := started.2 })
  stop id _ sessions :=
    let stopped := stop id sessions.world
    (stopped.1, { sessions with world := stopped.2 })
  connect ip sessions :=
    match sessions.world.connect ip with
    | .error cause => (.error cause, sessions)
    | .ok client =>
      let opened := sessions.connect ⟨client.service, scriptOf client.service, some client⟩
      (.ok opened.1, opened.2)

/-- The short budgets of a rehearsal. -/
def fleetSettings : FleetSettings :=
  let budget : PollBudget := ⟨Duration.ofSeconds 1, 3⟩
  ⟨budget, budget, Duration.ofSeconds 1⟩

/-- The timings of a rehearsal, which no environment changes. -/
def stakingSettings : StakingSettings where
  chainIds := .localNet
  acceptance := ⟨Duration.ofSeconds 1, Duration.ofSeconds 30⟩
  exportAcceptance := ⟨Duration.ofSeconds 1, Duration.ofSeconds 120⟩
  schedule := Environment.empty.schedule

/-- The image of a rehearsal. -/
def image : String := "ledger/node:test"

/-- **Starts the network and gives both staking nodes their funds.** -/
def fundedRoster {κ : Type} (genesis : Genesis) (amounts : StakeAmounts) :
    SiteAction κ (Roster κ) := do
  (Site.ofFleet (Fleet.startNetwork (← Action.state).definition)).wrap .fleet
  let fleet := (← Action.state).fleet
  let enrolled : RosterAction κ Unit := do
    let validator ← Roster.enroll fleet Scenario.validatorId Scenario.validatorUser
    let delegator ← Roster.enroll fleet Scenario.delegatorId Scenario.delegatorUser
    let funder ← Roster.appointFunder fleet Scenario.validatorId Scenario.funderUser
      genesis.funded.privateKey
    Action.lift (funder.fundXAddresses [validator.xAddress, delegator.xAddress] amounts.total)
  let ((), roster) ← Action.lift (Network.liftTimed (enrolled.alone (Roster.empty stakingSettings)))
  return roster

end LocalNetwork

end LedgerNet
