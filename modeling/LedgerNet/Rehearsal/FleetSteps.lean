import LedgerNet.Rehearsal.Waiting

/-!
# Rehearsing a fleet

The nodes of a plan are started, looked up and removed on a runner that
follows the plan. Nodes may be defined and forgotten again as the rehearsal
goes on.
-/

namespace LedgerNet.Plan

open Json Report

/-- **What is defined, what runs, and the world it runs in.** -/
structure FleetRun where
  definition : Definition
  fleet : Fleet Nat
  time : Timeline RunnerPlan.World

/-- A node that steps speak of but that nobody has defined. -/
def notDefined (id : String) : Members := [("error", txt "NotDefined"), ("message", txt id)]

/-- The members of a step that has nothing to tell but that it succeeded. -/
def succeeded : Members := [("ok", .bool true)]

namespace FleetRun

/-- What is told of every step, begun at a point in time. -/
def told (run : FleetRun) (begun : Duration) : Members :=
  [("elapsed_ms", ms (run.time.now.minusOrZero begun)), ("node_ids", txts run.fleet.ids),
    ("services", .array (run.time.world.world.events.reverse.map serviceEventJson)),
    ("calls", callBookJson run.time.world.notesByName)]

/-- The run with nothing noted. -/
def withoutNotes (run : FleetRun) : FleetRun :=
  let sessions := run.time.world.withoutNotes
  { run with time := { run.time with
    world := { sessions with world := { sessions.world with events := [] } } } }

/-- A step that ends in a run. -/
def finish {ε : Type} [HasFault ε] (before : FleetRun) (outcome : Outcome ε Members)
    (after : FleetRun) : Reading (Telling × FleetRun) :=
  return (.of outcome (after.told before.time.now), after.withoutNotes)

/-- A step that tells something. -/
def tells (before : FleetRun) (members : Members) (after : FleetRun) :
    Reading (Telling × FleetRun) :=
  before.finish (.ok members : Outcome FleetError Members) after

/-- A step that does something to the fleet. -/
def acts {α : Type} (plan : RunnerPlan) (before : FleetRun) (p : FleetAction Nat FleetError α)
    (members : α → Members) : Reading (Telling × FleetRun) :=
  let ((outcome, fleet), time) := (p.start before.fleet).run plan.deployment.handler before.time
  before.finish (outcome.map members) { before with fleet, time }

end FleetRun

/-- **One step with a fleet.** -/
def fleetStep (runner : RunnerPlan) : Stepper FleetRun := fun run plan => do
  let id ← plan.textAt "id"
  let onDefined {α : Type} (p : NodeConfig → FleetAction Nat FleetError α)
      (members : α → Members) : Reading (Telling × FleetRun) :=
    match run.definition.node? id with
    | some node => run.acts runner (p node) members
    | none => run.tells (notDefined id) run
  match ← plan.textAt "do" with
  | "start_network" => run.acts runner (Fleet.startNetwork run.definition) fun _ => succeeded
  | "create" => onDefined (Fleet.create run.definition) trackedMembers
  | "create_no_check" =>
    onDefined (Fleet.createUnchecked run.definition) fun checker =>
      [("checker", txt checker.node), ("record", recordJson checker.record)]
  | "remove" => run.acts runner (Fleet.remove id) fun _ => succeeded
  | "lookup" =>
    let tracked := run.fleet.tracked id
    run.tells [("contains", .bool (run.fleet.contains id)),
      ("client", resultE (fun _ => txt "bound") tracked),
      ("ip", resultE (fun node => txt node.ip.text) tracked)] run
  | "define" =>
    let params ← readNode (plan.part "node")
    match run.definition.add params with
    | .error cause => run.finish (Outcome.failed cause) run
    | .ok definition =>
      run.tells [("defined", txt params.id), ("bootstrap_ids",
        txt (NodeConfig.mk params run.definition.chain).bootstrapIds)] { run with definition }
  | "undefine" =>
    let (removed, definition) := run.definition.remove id
    run.tells [("undefined", .bool removed.isSome)] { run with definition }
  | other => .error other

def rehearseFleet (plan : Json) : Reading Json := do
  match ← readDefinition plan with
  | .error cause => return obj (faultMembers cause)
  | .ok definition =>
    let start : FleetRun := ⟨definition, .empty (← readFleetSettings (plan.part "settings")),
      Timeline.start epoch (Sessions.ofWorld .none)⟩
    return obj [("steps", ← (fleetStep (← readRunner plan)).tell start plan)]

end LedgerNet.Plan
