import LedgerNet.Program.Network
import LedgerNet.Rehearsal.Script

/-!
# A runner that follows a plan

Services can be made to fail at their start and at their stop, and clients
at their binding. Everything else succeeds: services get addresses in the
order of their starts unless the plan gives them one, and nodes answer by
the script of their address.
-/

namespace LedgerNet

/-- **What is planned for services and their clients.** -/
structure RunnerPlan where
  /-- The texts with which starts fail, by service. -/
  startFailures : Book String
  /-- The texts with which stops fail, by service. -/
  stopFailures : Book String
  /-- Addresses by service. -/
  addresses : Book Ip
  /-- Errors of bindings, by the text of the address. -/
  bindFailures : Book ApiError
  /-- Scripts by the text of the address. -/
  scripts : Book Script

/-- **What happened to services.** -/
inductive ServiceEvent where
  | started (spec : ServiceSpec) (command : List String)
  | startFailed (id : String)
  | stopped (id : String) (grace : Duration)

namespace RunnerPlan

/-- The services of a run by plan. -/
structure Services where
  /-- How many were started. -/
  started : Nat
  /-- What happened, the last one first. -/
  events : List ServiceEvent

def Services.none : Services := ⟨0, []⟩

/-- The world of a run by plan: its services, and sessions with scripts that
nobody stands behind. -/
abbrev World := Sessions Empty Services

variable (plan : RunnerPlan)

/-- The address of a service that starts after some others. -/
def addressOf (id : String) (started : Nat) : Ip :=
  (plan.addresses.get? id).getD (.v4 (.ofOctets 10 0 0 (started + 2)))

def start (spec : ServiceSpec) (world : World) : Except ServiceError Ip × World :=
  let services := world.world
  match plan.startFailures.get? spec.id with
  | some text =>
    (.error (.ofText text),
      { world with world := { services with events := .startFailed spec.id :: services.events } })
  | none =>
    let ip := plan.addressOf spec.id services.started
    let command := spec.command ip (spec.mountsIn Conventions.volumeMountpoint)
    (.ok ip,
      { world with world := ⟨services.started + 1, .started spec command :: services.events⟩ })

def stop (id : String) (grace : Duration) (world : World) : Except ServiceError Unit × World :=
  let services := world.world
  let world := { world with
    world := { services with events := .stopped id grace :: services.events } }
  match plan.stopFailures.get? id with
  | some text => (.error (.ofText text), world)
  | none => (.ok (), world)

def connect (ip : Ip) (world : World) : Except ApiError Nat × World :=
  match plan.bindFailures.get? ip.text with
  | some cause => (.error cause, world)
  | none =>
    let script := (plan.scripts.get? ip.text).getD Script.alwaysBootstrapped
    let opened := world.connect ⟨ip.text, some script, none⟩
    (.ok opened.1, opened.2)

/-- **The deployment of a run by plan.** -/
def deployment : Deployment Nat World where
  answer := Sessions.answer fun (client, _) _ => nomatch client
  start := plan.start
  stop := plan.stop
  connect := plan.connect

end RunnerPlan

end LedgerNet
