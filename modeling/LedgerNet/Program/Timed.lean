import LedgerNet.Api.Call
import LedgerNet.Duration

/-!
# Programs in time

What one node is asked happens in time: a program sleeps between two
questions and looks at the clock to see how long it has waited. The
requests of such a program are the questions it may ask, of whatever kind,
together with sleeping and the two clocks. One clock counts from the start
of the run and never jumps, the other tells the time of day.

`Timeline` is where a run keeps the time. Nothing but sleep moves it, and
sleep moves it to the first whole millisecond at or after the wanted point.
-/

namespace LedgerNet

/-- **What a program in time may ask**: a question, a sleep, or a clock. -/
inductive TimedOp (Q : Interface.{0}) where
  | query (question : Q.Op)
  | sleep (d : Duration)
  /-- The time since the start of the run. -/
  | elapsed
  /-- The time since the epoch. -/
  | timeOfDay

/-- The answers to the requests of a program in time. -/
def TimedOp.Reply {Q : Interface.{0}} : TimedOp Q → Type
  | query question => Q.Reply question
  | sleep _ => Unit
  | elapsed => Duration
  | timeOfDay => Duration

/-- **Questions in time**, as an interface. -/
abbrev Timed (Q : Interface.{0}) : Interface.{0} := ⟨TimedOp Q, TimedOp.Reply⟩

/-- **The calls of many nodes**: whom to call, and what to ask. -/
abbrev Clients (κ : Type) : Interface.{0} :=
  ⟨κ × Call, fun called => Outcome ApiError called.2.Result⟩

/-! ## The requests as programs -/

section Requests

variable {Q : Interface.{0}} {ε : Type}

/-- A pause. -/
def sleep (d : Duration) : Attempt (Timed Q) ε Unit :=
  ExceptT.mk (Proc.ask (TimedOp.sleep d) fun _ => Proc.done (Except.ok ()))

/-- The time since the start of the run. -/
def elapsed : Attempt (Timed Q) ε Duration :=
  ExceptT.mk (Proc.ask TimedOp.elapsed fun now => Proc.done (Except.ok now))

/-- The time since the epoch. -/
def timeOfDay : Attempt (Timed Q) ε Duration :=
  ExceptT.mk (Proc.ask TimedOp.timeOfDay fun now => Proc.done (Except.ok now))

/-- A pause until a point in time; none if it has passed. -/
def sleepUntil (instant : Duration) : Attempt (Timed Q) ε Unit := do
  let now ← elapsed
  sleep (instant.minusOrZero now)

/-- A call to the node behind a client. -/
def callNode {κ : Type} (client : κ) (call : Call) :
    Attempt (Timed (Clients κ)) ApiError call.Result :=
  ExceptT.mk (Proc.ask (TimedOp.query (Q := Clients κ) (client, call)) Proc.done)

end Requests

/-! ## Time in a run -/

/-- **A run at a point in time**: the two clocks, and all else that the run
consists of. -/
structure Timeline (σ : Type) where
  /-- The time since the epoch at which the run started. -/
  epoch : Duration
  /-- The time since then. -/
  now : Duration
  world : σ

namespace Timeline

variable {σ : Type}

/-- A run that starts now. -/
def start (epoch : Duration) (world : σ) : Timeline σ := ⟨epoch, .zero, world⟩

/-- The first whole millisecond at or after a point in time. -/
def tick (instant : Duration) : Duration :=
  ⟨(instant.nanos + (Duration.nanosPerMilli - 1)) / Duration.nanosPerMilli * Duration.nanosPerMilli⟩

/-- **When a sleep ends** that begins now. -/
def wakeTime (t : Timeline σ) (d : Duration) : Duration :=
  tick ⟨t.now.nanos + d.nanos⟩

/-- The run at a later point in time. -/
def advancedTo (t : Timeline σ) (instant : Duration) : Timeline σ :=
  { t with now := ⟨max t.now.nanos instant.nanos⟩ }

/-- **Answers in time**, given the answers to the questions: sleep moves the
clock and nothing else does. -/
def handler {Q : Interface.{0}} (answer : Proc.Handler Q σ) : Proc.Handler (Timed Q) (Timeline σ)
  | .query question, t =>
    let answered := answer question t.world
    (answered.1, { t with world := answered.2 })
  | .sleep d, t => ((), t.advancedTo (t.wakeTime d))
  | .elapsed, t => (t.now, t)
  | .timeOfDay, t => (⟨t.epoch.nanos + t.now.nanos⟩, t)

/-- A whole millisecond is its own first one. -/
theorem tick_ofMillis (n : Nat) : tick (Duration.ofMillis n) = Duration.ofMillis n := by
  have h : (n * 1000000 + (1000000 - 1)) / 1000000 = n := by omega
  simp [tick, Duration.ofMillis, Duration.nanosPerMilli, h]

end Timeline

end LedgerNet
