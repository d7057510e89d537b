import LedgerNet.Program.Together
import LedgerNet.Service

/-!
# Programs that run a network

Beside calling nodes and letting time pass, such a program starts services,
stops them, and binds clients to those that are running. Whatever answers
it, containers or a rehearsal in memory, is a `Deployment`.
-/

namespace LedgerNet

/-- **What a program that runs a network may ask.** Clients of nodes are
values of `κ`. -/
inductive NetworkOp (κ : Type) : Type 1 where
  | concurrent (op : ConcurrentOp (Clients κ))
  | start (spec : ServiceSpec)
  /-- Stops a service, by force once the grace is over. -/
  | stop (id : String) (grace : Duration)
  /-- Binds a client to the node at an address. -/
  | connect (ip : Ip)

/-- The answers to the requests of a program that runs a network. -/
def NetworkOp.Reply {κ : Type} : NetworkOp κ → Type
  | concurrent op => op.Reply
  | start _ => Except ServiceError Ip
  | stop _ _ => Except ServiceError Unit
  | connect _ => Except ApiError κ

/-- **Running a network**, as an interface. -/
abbrev Network (κ : Type) : Interface.{1} := ⟨NetworkOp κ, NetworkOp.Reply⟩

namespace Network

variable {κ ε α : Type}

/-- A program that only calls nodes, among those that run a network. -/
def lift (p : Attempt (Concurrent (Clients κ)) ε α) : Attempt (Network κ) ε α :=
  ExceptT.mk (p.run.interpret fun op => Proc.ask (NetworkOp.concurrent op) Proc.done)

/-- A program of a single task, among those that run a network. -/
def liftTimed (p : Attempt (Timed (Clients κ)) ε α) : Attempt (Network κ) ε α :=
  lift (Concurrent.lift p)

/-- Starts a service. -/
def start (spec : ServiceSpec) : Proc (Network κ) (Except ServiceError Ip) :=
  Proc.ask (NetworkOp.start spec) Proc.done

/-- Stops a service. -/
def stop (id : String) (grace : Duration) : Proc (Network κ) (Except ServiceError Unit) :=
  Proc.ask (NetworkOp.stop id grace) Proc.done

/-- Binds a client. -/
def connect (ip : Ip) : Proc (Network κ) (Except ApiError κ) :=
  Proc.ask (NetworkOp.connect ip) Proc.done

end Network

/-- **What a network runs on**: how services start and stop, how clients are
bound, and how the nodes behind them answer, all over one world. -/
structure Deployment (κ σ : Type) where
  answer : Proc.Handler (Clients κ) σ
  start : ServiceSpec → σ → Except ServiceError Ip × σ
  stop : String → Duration → σ → Except ServiceError Unit × σ
  connect : Ip → σ → Except ApiError κ × σ

namespace Deployment

variable {κ σ α β : Type}

/-- A request that takes no time. -/
def atOnce (effect : σ → β × σ) (t : Timeline σ) : β × Timeline σ :=
  let done := effect t.world
  (done.1, { t with world := done.2 })

/-- **Answers to a program that runs a network.** -/
def handler (deployment : Deployment κ σ) : Proc.Handler (Network κ) (Timeline σ)
  | .concurrent op, t => Concurrent.handler deployment.answer op t
  | .start spec, t => atOnce (deployment.start spec) t
  | .stop id grace, t => atOnce (deployment.stop id grace) t
  | .connect ip, t => atOnce (deployment.connect ip) t

end Deployment

end LedgerNet
