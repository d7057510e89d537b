import LedgerNet.Container.Deployment
import LedgerNet.Log.Filter
import LedgerNet.Manifest
import LedgerNet.Staking.Scenario

/-!
# A staking run

The whole program: it finds out what network is wanted, runs it in
containers, drives the staking scenario against it and clears up. All that
it is told comes from the environment. Without the container tool there is
nothing to run, and that is no failure.

What a run says on the way are its events. Which of them are shown is up to
the log filter.
-/

namespace LedgerNet

/-! ## Events -/

/-- **What a run says.** -/
inductive RunEvent where
  /-- It has begun, and this many nodes will join in the end. -/
  | begun (addedNodes : Nat)
  /-- There is no container tool. -/
  | unavailable
  /-- It knows its network: how many nodes, and how many of them are in the
  bootstrap chain. -/
  | defined (nodes bootstrap : Nat)
  /-- It has failed, and why. -/
  | failed (reason : String)
  deriving DecidableEq, Repr

namespace RunEvent

/-- The part of the program that says all this. -/
def target : String := "staking_runner"

def level : RunEvent → LogLevel
  | begun _ | defined _ _ => .info
  | unavailable | failed _ => .warn

/-- What a line has beside its text. -/
def values : RunEvent → List (String × Nat)
  | begun addedNodes => [("added_nodes", addedNodes)]
  | defined nodes bootstrap => [("nodes", nodes), ("bootstrap", bootstrap)]
  | unavailable | failed _ => []

/-- The text of a line. -/
def message : RunEvent → String
  | begun _ => "starting staking runner demo"
  | unavailable => "Docker is unavailable; cannot run staking demo"
  | defined _ _ => "network definition ready"
  | failed reason => "staking runner demo failed: " ++ reason

/-- The event as a line of a log. -/
def line (event : RunEvent) : LogLine :=
  ⟨event.level, target, "message" :: event.values.map (·.1)⟩

end RunEvent

/-! ## Failures -/

/-- **Why a run failed.** -/
inductive RunError where
  | genesis (cause : GenesisError)
  /-- There is no manifest to be read. -/
  | manifest (cause : ManifestError)
  /-- The manifest describes no network. -/
  | network (path : String) (cause : ManifestError)
  /-- There is no network without a manifest either. -/
  | builtIn (cause : DefinitionError)
  | runner (cause : ServiceError)
  | scenario (cause : StakingError)
  deriving DecidableEq, Repr

namespace RunError

/-- **What a failure was for, and its causes**, outermost first. -/
def chain : RunError → List String
  | genesis cause => "loading genesis stakers" :: cause.message :: cause.causes
  | manifest cause => cause.message :: cause.causes
  | network path cause => ("building network from " ++ path) :: cause.message :: cause.causes
  | builtIn cause => ["building staking network", cause.message]
  | runner cause => "preparing docker runner" :: cause.message :: cause.causes
  | scenario cause => "running staking scenario failed" :: cause.message :: cause.causes

def text (cause : RunError) : String := String.intercalate ": " cause.chain

end RunError

/-! ## The run -/

/-- How many nodes join in the end. -/
def Environment.addedNodes (env : Environment) : Nat :=
  (env.firstOf ["TESTNET_DEMO_ADDED_NODES"] Text.readUInt64?
    (UInt64.ofNat Scenario.usual.addedNodes)).toNat

namespace StakingRun

/-- The scenario of a run. -/
def scenario (env : Environment) : Scenario :=
  { Scenario.usual with addedNodes := env.addedNodes }

/-- **The network of a run**: that of the manifest if the environment names
one, and else that of the scenario. -/
def definition (env : Environment) (files : FileSystem) (scenario : Scenario) (genesis : Genesis) :
    Except RunError Definition :=
  match env.manifestPath? with
  | some path => do
    let manifest ← (Manifest.ofFile files path).mapError .manifest
    (manifest.definition env genesis).mapError (.network path)
  | none => (scenario.definition env env.networkParams genesis).mapError .builtIn

/-- The settings of a run. -/
def settings (env : Environment) : Checked (FleetSettings × StakingSettings) := do
  return (← env.fleetSettings, ← StakingSettings.ofEnvironment env)

variable {σ : Type}

/-- **The scenario in containers**, from a given time of day. -/
def stake (machine : Machine σ) (env : Environment) (epoch : Duration) (scenario : Scenario)
    (genesis : Genesis) (definition : Definition) (network : ContainerNetwork σ) :
    Outcome StakingError Unit × ContainerNetwork σ :=
  match settings env with
  | .error cause => (Outcome.crashed (.overflow cause), network)
  | .ok (fleetSettings, stakingSettings) =>
    let site : Site Nat := ⟨definition, Fleet.empty fleetSettings⟩
    let ended := ((scenario.run env genesis stakingSettings).start site).run
      (ContainerNetwork.deployment machine).handler (Timeline.start epoch network)
    (ended.1.1.map fun _ => (), ended.2.world)

/-- What a run has said, the last of it first, and the machine as it
stands. -/
structure State (σ : Type) where
  said : List RunEvent
  machine : σ

/-- A part of a run. -/
abbrev Stage (σ α : Type) := ExceptT (Failure RunError) (StateM (State σ)) α

def say (event : RunEvent) : Stage σ Unit :=
  modify fun s => { s with said := event :: s.said }

def ofOutcome {α : Type} (outcome : Outcome RunError α) : Stage σ α := ExceptT.mk (pure outcome)

def ofExcept {ε α : Type} (wrap : ε → RunError) (result : Except ε α) : Stage σ α :=
  ofOutcome (result.mapError fun cause => .error (wrap cause))

/-- A program on the host. -/
def onHost {α : Type} (machine : Machine σ) (p : Proc Host α) : Stage σ α :=
  modifyGet fun s =>
    let ended := p.run machine.host s.machine
    (ended.1, { s with machine := ended.2 })

/-- How long the container tool may take to answer at all. -/
def probeLimit : Duration := Duration.ofSeconds 10

/-- **The network and the scenario on it.** The network is cleared away
whatever becomes of the scenario. -/
def runNetwork (machine : Machine σ) (env : Environment) (epoch : Duration) (project : String)
    (scenario : Scenario) (genesis : Genesis) (definition : Definition) : Stage σ Unit := do
  let created ← onHost machine (ContainerRunner.create env project).run
  let runner ← ofOutcome (created.mapError (Failure.map .runner))
  let state ← get
  let ended := stake machine env epoch scenario genesis definition ⟨runner, [], state.machine⟩
  let network := ended.2.cleanUp machine env.preserves
  set { state with machine := network.machine }
  ofOutcome (ended.1.mapError (Failure.map .scenario))

/-- **A run to its end**, given the files that are there and the name that
its containers begin with. -/
def stages (machine : Machine σ) (env : Environment) (files : FileSystem) (epoch : Duration)
    (project : String) : Stage σ Unit := do
  let scenario := scenario env
  say (.begun scenario.addedNodes)
  let limit ← ofOutcome (Outcome.ofChecked (env.stretched probeLimit))
  if ← onHost machine (Host.available limit) then
    let genesis ← ofExcept .genesis (Genesis.ofEnvironment env files)
    let definition ← ofOutcome ((definition env files scenario genesis).mapError Failure.error)
    say (.defined definition.nodes.length definition.chain.length)
    runNetwork machine env epoch project scenario genesis definition
  else say .unavailable

/-- **What a run comes to.** -/
structure Report (σ : Type) where
  /-- The code that the program ends with. -/
  exit : Nat
  events : List RunEvent
  machine : σ

/-- **The whole run.** A failure is the last thing that is said, and ends
the program with one; a crash says nothing here. -/
def run (machine : Machine σ) (env : Environment) (files : FileSystem) (epoch : Duration)
    (project : String) (world : σ) : Report σ :=
  let (outcome, state) := (stages machine env files epoch project).run.run ⟨[], world⟩
  let report (exit : Nat) (last : List RunEvent) : Report σ :=
    ⟨exit, state.said.reverse ++ last, state.machine⟩
  match outcome with
  | .ok () => report 0 []
  | .error (.error cause) => report 1 [.failed cause.text]
  | .error (.crash _) => report 101 []

/-- The events that are shown. -/
def Report.shown (report : Report σ) (filter : LogFilter) : List RunEvent :=
  report.events.filter fun event => filter.shows event.line

end StakingRun

end LedgerNet
