import LedgerNet.Api.Http
import LedgerNet.Container.Runner
import LedgerNet.Program.Network

/-!
# Networks in containers

A network that runs on a real machine: its services are containers, and its
nodes are called over HTTP at the addresses of those. Everything that is
asked of the machine goes through two interfaces, one for the container tool
and files and one for posts.
-/

namespace LedgerNet

/-- **A machine**: how it answers what is asked of the host, and how posts
are answered. -/
structure Machine (σ : Type) where
  host : Proc.Handler Host σ
  post : Proc.Handler Http σ

/-- **A network in containers**: the runner, the clients that were bound, and
the machine as it stands. -/
structure ContainerNetwork (σ : Type) where
  runner : ContainerRunner
  clients : List HttpClient
  machine : σ

namespace ContainerNetwork

variable {σ α : Type}

/-- Does something with the runner. A crash counts as an error here. -/
def act (machine : Machine σ) (p : RunnerAction α) (network : ContainerNetwork σ) :
    Except ServiceError α × ContainerNetwork σ :=
  let ended := (p.start network.runner).run machine.host network.machine
  let network := { network with runner := ended.1.2, machine := ended.2 }
  match ended.1.1 with
  | .ok value => (.ok value, network)
  | .error (.error cause) => (.error cause, network)
  | .error (.crash cause) => (.error (.ofText cause.message), network)

/-- Calls the node behind a client. -/
def call (machine : Machine σ) : Proc.Handler (Clients Nat) (ContainerNetwork σ)
  | (index, call), network =>
    match network.clients[index]? with
    | none => (Outcome.failed (.unsupported call.method), network)
    | some client =>
      let ended := (call.onWire.send.start client).run machine.post network.machine
      (ended.1.1, { network with
        clients := network.clients.set index ended.1.2
        machine := ended.2 })

/-- Binds a client to an address, which needs nobody to answer there. -/
def connect (ip : Ip) (network : ContainerNetwork σ) : Except ApiError Nat × ContainerNetwork σ :=
  (.ok network.clients.length,
    { network with clients := network.clients ++ [HttpClient.ofBase (nodeUrl ip)] })

/-- **The deployment of a network in containers.** -/
def deployment (machine : Machine σ) : Deployment Nat (ContainerNetwork σ) where
  answer := call machine
  start spec := act machine (ContainerRunner.start spec)
  stop id grace := act machine (ContainerRunner.stop id grace)
  connect := connect

/-- Ends the run of the network. -/
def cleanUp (machine : Machine σ) (preserve : Bool) (network : ContainerNetwork σ) :
    ContainerNetwork σ :=
  (act machine (ContainerRunner.cleanUp preserve) network).2

end ContainerNetwork

end LedgerNet
