import LedgerNet.Program.Action
import LedgerNet.Program.Network
import LedgerNet.Readiness

/-!
# The fleet

The fleet is the nodes of a network that are running, with the addresses
they were given and the clients bound to them. A node enters it once its
service has started and a client is bound, and leaves it when it is removed,
whether or not its service then stops. That a node is tracked says nothing
about its being ready; only the creation that waited for it does.

A network starts in two waves. The bootstrap nodes are created one after
the other and then waited for together. Regular nodes follow one by one,
each waited for before the next is created.

What happens to the fleet is a program whose state outlives its failures: a
creation that fails after others succeeded leaves those in the fleet.
-/

namespace LedgerNet

/-- **How long nodes are waited for**, and how long they get to stop. -/
structure FleetSettings where
  startup : PollBudget
  bootstrapWave : PollBudget
  grace : Duration
  deriving DecidableEq, Repr

/-- How long nodes are waited for on this machine. -/
def Environment.fleetSettings (env : Environment) : Checked FleetSettings := do
  return ⟨← env.startupBudget, ← env.waveBudget, ← env.stretched env.terminationGrace⟩

/-- **A node that is running.** -/
structure TrackedNode (κ : Type) where
  id : String
  ip : Ip
  client : κ

/-- What is shown of a running node. -/
def TrackedNode.debug {κ : Type} (node : TrackedNode κ) : String :=
  "TrackedNode \x7b id: " ++ Text.quote node.id ++ ", ip: " ++ node.ip.text ++ ", .. \x7d"

/-- **The running nodes of a network.** -/
structure Fleet (κ : Type) where
  settings : FleetSettings
  /-- At most one for each id. -/
  nodes : List (TrackedNode κ)

/-- **Why the fleet is not as it was asked to be.** -/
inductive FleetError where
  | configuration (cause : DefinitionError)
  | notFound (id : String)
  | start (id : String) (cause : ServiceError)
  | stop (id : String) (cause : ServiceError)
  | client (id : String) (cause : ApiError)
  | readiness (id : String) (cause : ReadinessError)
  /-- The wait for a node crashed. -/
  | readinessTask (id : String) (cause : Crash)
  deriving DecidableEq, Repr

namespace FleetError

def message : FleetError → String
  | configuration cause => cause.message
  | notFound id => "node `" ++ id ++ "` is not tracked"
  | start id _ => "failed to start node `" ++ id ++ "`"
  | stop id _ => "failed to stop node `" ++ id ++ "`"
  | client id _ => "failed to bind a client to node `" ++ id ++ "`"
  | readiness id _ => "node `" ++ id ++ "` failed to start"
  | readinessTask id _ => "readiness task for node `" ++ id ++ "` did not complete"

def causes : FleetError → List String
  | start _ cause | stop _ cause => cause.message :: cause.causes
  | client _ cause => [cause.message]
  | readiness _ cause => [cause.message]
  | configuration _ | notFound _ | readinessTask _ _ => []

end FleetError

namespace Fleet

variable {κ : Type}

/-! ## Looking things up -/

/-- Nothing is running. -/
def empty (settings : FleetSettings) : Fleet κ := ⟨settings, []⟩

/-- The running node with a given id. -/
def node? (fleet : Fleet κ) (id : String) : Option (TrackedNode κ) :=
  fleet.nodes.find? (·.id == id)

def contains (fleet : Fleet κ) (id : String) : Bool := (fleet.node? id).isSome

/-- The running node with a given id, or that there is none. -/
def tracked (fleet : Fleet κ) (id : String) : Except FleetError (TrackedNode κ) :=
  match fleet.node? id with
  | some node => .ok node
  | none => .error (.notFound id)

/-- **Every running node by id**, in the order of the ids. -/
def ids (fleet : Fleet κ) : List String :=
  (fleet.nodes.map TrackedNode.id).mergeSort fun a b => decide (a ≤ b)

/-- The fleet with a node more. -/
def insert (fleet : Fleet κ) (node : TrackedNode κ) : Fleet κ :=
  { fleet with nodes := fleet.nodes ++ [node] }

/-- The fleet without a node. -/
def erase (fleet : Fleet κ) (id : String) : Fleet κ :=
  { fleet with nodes := fleet.nodes.filter (·.id != id) }

end Fleet

/-! ## What happens to a fleet -/

/-- **A program that changes a fleet.** -/
abbrev FleetAction (κ ε : Type) := Action (Fleet κ) (Network κ) ε

/-- A program that only calls nodes, among those that run a network. -/
def Action.calling {σ κ ε α : Type} (p : Attempt (Concurrent (Clients κ)) ε α) :
    Action σ (Network κ) ε α :=
  Action.lift (Network.lift p)

namespace Fleet

open LedgerNet.Action

variable {κ : Type}

/-- **The service of a node**, given the addresses it bootstraps from. -/
def serviceOf (d : Definition) (node : NodeConfig) (bootstrapIps : List Ip) : ServiceSpec where
  id := node.id
  image := d.imageFor node
  files := node.files
  command := (Launch.ofNode d node bootstrapIps).render

/-- Binds a client to a service that has just started. A service to which
none can be bound is stopped again. -/
def bind (id : String) (ip : Ip) : FleetAction κ FleetError κ := do
  match ← request (Network.connect ip) with
  | .ok client => return client
  | .error cause =>
    let _ ← request (Network.stop id (← state).settings.grace)
    fail (.client id cause)

/-- **Starts a node without waiting for it.** A node that is running is not
started again, and the nodes it depends on have to be running. -/
def createUnchecked (d : Definition) (node : NodeConfig) :
    FleetAction κ FleetError (Checker κ) := do
  let before ← state
  if before.contains node.id then fail (.configuration (.duplicateNode node.id))
  else
    let bootstrapIps ← ofExcept
      (node.dependsOn.mapM fun peer => TrackedNode.ip <$> before.tracked peer.node)
    match ← request (Network.start (serviceOf d node bootstrapIps)) with
    | .error cause => fail (.start node.id cause)
    | .ok ip =>
      let client ← bind node.id ip
      change (·.insert ⟨node.id, ip, client⟩)
      return Checker.ofNode node.id client

/-- **Starts a node and waits until it is ready.** -/
def create (d : Definition) (node : NodeConfig) : FleetAction κ FleetError (TrackedNode κ) := do
  let checker ← createUnchecked d node
  let budget := (← state).settings.startup
  calling (Concurrent.lift ((checker.awaitReady budget).wrap (.readiness node.id)))
  ofExcept ((← state).tracked node.id)

/-- What the wait for a node came to, seen from the wave. -/
def waveFailure? (id : String) : Outcome ReadinessError Unit → Option FleetError
  | .ok () => none
  | .error (.error cause) => some (.readiness id cause)
  | .error (.crash cause) => some (.readinessTask id cause)

/-- The first failure of a wave, in the order of the chain. -/
def firstWaveFailure? (checkers : List (Checker κ))
    (outcomes : List (Outcome ReadinessError Unit)) : Option FleetError :=
  (checkers.zip outcomes).findSome? fun (checker, outcome) => waveFailure? checker.node outcome

/-- **Waits for all bootstrap nodes together**, whatever becomes of each. -/
def awaitWave (checkers : List (Checker κ)) : FleetAction κ FleetError Unit := do
  let budget := (← state).settings.bootstrapWave
  let outcomes ← calling
    (Concurrent.together (checkers.map fun checker => checker.awaitReady budget))
  match firstWaveFailure? checkers outcomes with
  | some cause => fail cause
  | none => return ()

/-- **Starts a whole network.** -/
def startNetwork (d : Definition) : FleetAction κ FleetError Unit := do
  awaitWave (← d.bootstrapNodes.mapM (createUnchecked d))
  d.regularNodes.forM fun node => do
    let _ ← create d node

/-- **Removes a node** from the fleet and stops its service. -/
def remove (id : String) : FleetAction κ FleetError Unit := do
  let before ← state
  if before.contains id then
    change (·.erase id)
    match ← request (Network.stop id before.settings.grace) with
    | .ok () => return ()
    | .error cause => fail (.stop id cause)
  else fail (.notFound id)

end Fleet

end LedgerNet
