import LedgerNet.Container.Command
import LedgerNet.Container.Subnet
import LedgerNet.Environment.Timing
import LedgerNet.Program.Action
import LedgerNet.Service

/-!
# Services in containers

Every service runs in a container of its own on a private network with a
fixed subnet, so the address of a service is known before its command is
made. A run has a project name that all of its containers and its network
start with, and a workspace with a directory for each service, which is
mounted into its container.

An address is taken from the pool before anything else happens and never
goes back, whatever becomes of the start. A container is on record from the
end of a successful start to the end of a successful stop.

The machine is asked through an interface of its own: it runs the container
tool and keeps files. What happens between two requests is up to it.
-/

namespace LedgerNet

/-! ## The machine -/

/-- **What is asked of the machine.** -/
inductive HostOp where
  /-- A run of the container tool with some arguments. -/
  | docker (args : List String)
  /-- A new directory with a name that begins like this. -/
  | newDirectory (stem : String)
  | makeDirectories (path : String)
  | write (path : String) (contents : String)
  /-- The end of a directory and all that is in it. -/
  | removeTree (path : String)

/-- The answers of the machine. -/
def HostOp.Reply : HostOp → Type
  | docker _ => Except FileError CommandRun
  | newDirectory _ => Except FileError String
  | makeDirectories _ => Except FileError Unit
  | write _ _ => Except FileError Unit
  | removeTree _ => Unit

/-- **The machine**, as an interface. -/
abbrev Host : Interface.{0} := ⟨HostOp, HostOp.Reply⟩

/-- A program on the machine. -/
abbrev HostAttempt := Attempt Host ServiceError

namespace Host

/-- Runs the container tool within a limit. -/
def docker (args : List String) (limit : Duration) (command : String) :
    Attempt Host CommandError String := do
  let run ← Attempt.ofProc (Proc.ask (HostOp.docker args) Proc.done : Proc Host _)
  Attempt.ofExcept (CommandRun.result command limit run)

/-- Something that did not work out, seen from what it was for. -/
def explain (purpose : String) (cause : CommandError) : ServiceError :=
  ⟨purpose, cause.message :: cause.causes⟩

/-- A request about files, with what it is for. -/
def filing {α : Type} (purpose : String) (request : Proc Host (Except FileError α)) :
    HostAttempt α := do
  let answer ← Attempt.ofProc request
  Attempt.ofExcept (answer.mapError fun cause => ⟨purpose, [cause.message]⟩)

/-- **Whether the container tool answers** within a limit. -/
def available (limit : Duration) : Proc Host Bool := do
  let answer ← (docker ["info"] limit "docker info").run
  return answer.toBool

end Host

/-! ## The workspace -/

namespace Workspace

/-- Writes files into a directory, one after the other. -/
def writeFiles (directory : String) : List (String × String) → HostAttempt Unit
  | [] => return ()
  | (name, contents) :: rest => do
    let path := Path.join directory name
    Host.filing ("writing " ++ path) (Proc.ask (HostOp.write path contents) Proc.done)
    writeFiles directory rest

/-- **Makes the directory of a service** with its files in it. -/
def materialise (directory : String) (files : List (String × String)) : HostAttempt Unit := do
  Host.filing ("creating service dir " ++ directory)
    (Proc.ask (HostOp.makeDirectories directory) Proc.done)
  writeFiles directory files

end Workspace

/-! ## The runner -/

/-- **How long commands may take.** -/
structure CommandLimits where
  info : Duration
  network : Duration
  run : Duration
  remove : Duration
  teardown : Duration
  deriving DecidableEq, Repr

/-- The limits on this machine. -/
def Environment.commandLimits (env : Environment) : Checked CommandLimits := do
  return {
    info := ← env.stretched (Duration.ofSeconds 10)
    network := ← env.stretched (Duration.ofSeconds 30)
    run := ← env.stretched (Duration.ofSeconds 120)
    remove := ← env.stretched (Duration.ofSeconds 30)
    teardown := ← env.stretched (Duration.ofSeconds 60) }

/-- **A container on record.** -/
structure Container where
  service : String
  name : String
  ip : Ipv4
  deriving DecidableEq, Repr

/-- **A runner of services in containers.** -/
structure ContainerRunner where
  project : String
  network : String
  /-- Whether the network was made by this runner. -/
  ownsNetwork : Bool
  /-- The workspace. -/
  root : String
  limits : CommandLimits
  /-- The addresses that were not given away yet. -/
  pool : AddressPool
  /-- In the order of the services, at most one for each. -/
  containers : List Container

/-- A program that changes a runner. -/
abbrev RunnerAction := Action ContainerRunner Host ServiceError

namespace ContainerRunner

/-- The network of the run: its name, and whether it has to be made. -/
def networkOf (env : Environment) (project : String) : String × Bool :=
  match env.dockerNetwork? with
  | some existing => (existing, false)
  | none => (project ++ "-net", true)

/-- Makes the network of a run. -/
def makeNetwork (limits : CommandLimits) (subnet : Subnet) (network : String) :
    HostAttempt Unit := do
  let args := ["network", "create", "--driver", "bridge", "--subnet", subnet.text, network]
  let _ ← (Host.docker args limits.network "docker network create").wrap
    (Host.explain ("creating docker network " ++ network))

/-- **Sets up a run**: makes sure that the tool answers, and makes the
network and the workspace. -/
def create (env : Environment) (project : String) : HostAttempt ContainerRunner := do
  let limits ← Attempt.ofChecked env.commandLimits
  if ← Attempt.ofProc (Host.available limits.info) then
    let subnet ← Attempt.ofChecked (Subnet.ofEnvironment env)
    let (network, ownsNetwork) := networkOf env project
    if ownsNetwork then makeNetwork limits subnet network
    let root ← Host.filing "creating testnet temp dir"
      (Proc.ask (HostOp.newDirectory "ledger-testnet-") Proc.done)
    return {
      project, network, ownsNetwork, root, limits
      pool := AddressPool.ofSubnet subnet
      containers := [] }
  else .fail (.ofText "docker is not available (`docker info` failed)")

/-- The name of the container of a service. -/
def containerName (runner : ContainerRunner) (service : String) : String :=
  runner.project ++ "-" ++ service

/-- The container of a service, if it is on record. -/
def container? (runner : ContainerRunner) (service : String) : Option Container :=
  runner.containers.find? (·.service == service)

/-- A container in its place among others, in place of one of its service. -/
def insertSorted (container : Container) : List Container → List Container
  | [] => [container]
  | other :: rest =>
    if container.service < other.service then container :: other :: rest
    else if container.service = other.service then container :: rest
    else other :: insertSorted container rest

/-- The runner with a container on record. -/
def record (runner : ContainerRunner) (container : Container) : ContainerRunner :=
  { runner with containers := insertSorted container runner.containers }

/-- The runner without a container. -/
def forget (runner : ContainerRunner) (service : String) : ContainerRunner :=
  { runner with containers := runner.containers.filter (·.service != service) }

/-- **What the tool is told to run a container.** -/
def runArgs (name network : String) (ip : Ipv4) (directory image : String)
    (command : List String) : List String :=
  ["run", "-d", "--name", name, "--network", network, "--ip", ip.text, "-v",
    directory ++ ":" ++ Conventions.volumeMountpoint, image] ++ command

/-- Takes an address for a service that is not running. -/
def reserve (service : String) : RunnerAction Ipv4 := do
  let runner ← Action.state
  if (runner.container? service).isSome then
    Action.fail (.ofText ("service " ++ service ++ " is already running"))
  else
    match runner.pool.take with
    | .error cause => Action.fail (.ofText cause.message)
    | .ok (ip, pool) =>
      Action.change fun runner => { runner with pool }
      return ip

/-- A command of the tool in a run. -/
def command (args : List String) (limit : Duration) (name purpose : String) :
    RunnerAction Unit := do
  let _ ← Action.lift ((Host.docker args limit name).wrap (Host.explain purpose))

/-- **Starts a service.** -/
def start (spec : ServiceSpec) : RunnerAction Ip := do
  let ip ← reserve spec.id
  let runner ← Action.state
  let directory := Path.join runner.root spec.id
  Action.lift (Workspace.materialise directory spec.files)
  let arguments := spec.command (.v4 ip) (spec.mountsIn Conventions.volumeMountpoint)
  let name := runner.containerName spec.id
  command (runArgs name runner.network ip directory spec.image arguments) runner.limits.run
    "docker run" ("starting container for " ++ spec.id)
  Action.change (·.record ⟨spec.id, name, ip⟩)
  return .v4 ip

/-- **Stops a service** and removes its container. The tool gets the grace
on top of its own limit. -/
def stop (service : String) (grace : Duration) : RunnerAction Unit := do
  let runner ← Action.state
  match runner.container? service with
  | none => Action.fail (.ofText ("service " ++ service ++ " is not running"))
  | some container =>
    let limit ← Action.ofOutcome (Outcome.ofChecked (grace.plus runner.limits.remove))
    command ["stop", "-t", toString grace.seconds, container.name] limit "docker stop"
      ("stopping container " ++ container.name)
    command ["rm", "-f", container.name] runner.limits.remove "docker rm"
      ("removing container " ++ container.name)
    Action.change (·.forget service)

/-- Removes containers, whatever becomes of each. -/
def removeAll (limit : Duration) : List Container → RunnerAction Unit
  | [] => return ()
  | container :: rest => do
    let _ ← (Action.lift (Host.docker ["rm", "-f", container.name] limit "docker rm")).outcome
    removeAll limit rest

/-- **Ends a run.** Every container on record is removed, then the network if
it was made for the run, then the workspace. A run that is to be preserved
keeps them all. -/
def cleanUp (preserve : Bool) : RunnerAction Unit := do
  let runner ← Action.state
  if preserve then return ()
  else
    removeAll runner.limits.teardown runner.containers
    if runner.ownsNetwork then
      let _ ← (Action.lift (Host.docker ["network", "rm", runner.network] runner.limits.teardown
        "docker network rm")).outcome
    Action.change fun runner => { runner with containers := [] }
    Action.request (Proc.ask (HostOp.removeTree runner.root) Proc.done)

end ContainerRunner

end LedgerNet
