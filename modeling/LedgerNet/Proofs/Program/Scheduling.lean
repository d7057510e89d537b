import LedgerNet.Proofs.Program.Acting
import LedgerNet.Proofs.Program.Interleaving
import LedgerNet.Fleet

/-!
# Programs whose tasks are scheduled at will

A handler gives one answer to each request, so against a handler a program
has one run. Where a program hands over tasks and nothing is known of how
they are scheduled, there are as many answers to a request as there are
interleavings of its tasks. Then a program has many runs (`Proc.Runs`), and
what is true of all of them is true whatever the scheduler does.

The answers are kept in a chronicle: the time and the world, as in any run,
and the journal of each task that has been run. So it can be said of a run
not only what came out but also who asked what.
-/

namespace LedgerNet

universe u

variable {Q : Interface.{0}} {κ σ τ ε δ α β : Type}

namespace Proc

variable {I : Interface.{u}}

/-- **Answers that leave something open**: to a request there may be several
answers, each with what is remembered then. -/
abbrev Answers (I : Interface.{u}) (τ : Type) := (op : I.Op) → τ → I.Reply op × τ → Prop

/-- **The runs of a program** against such answers. -/
def Runs (answers : Answers I τ) : Proc I α → τ → α × τ → Prop
  | done value, s, ended => ended = (value, s)
  | ask op resume, s, ended =>
    ∃ answered, answers op s answered ∧ (resume answered.1).Runs answers answered.2 ended

end Proc

/-- The runs of a program that may fail. -/
def Attempt.Runs {I : Interface.{u}} (answers : Proc.Answers I τ) (p : Attempt I ε α) (s : τ)
    (ended : Outcome ε α × τ) : Prop :=
  Proc.Runs answers (ExceptT.run p) s ended

/-- **The runs of an action** from a state. -/
def Action.Runs {I : Interface.{u}} (answers : Proc.Answers I τ) (p : Action σ I ε α) (s : σ)
    (t : τ) (ended : (Outcome ε α × σ) × τ) : Prop :=
  Proc.Runs answers (p.start s) t ended

/-- **A timeline with the journals** of the tasks that were run on it. -/
structure Chronicle (Q : Interface.{0}) (σ : Type) where
  time : Timeline σ
  journals : List (List (Proc.Entry (Timed Q)))

/-- A chronicle of which nothing is written yet. -/
def Chronicle.blank (time : Timeline σ) : Chronicle Q σ := ⟨time, []⟩

namespace Concurrent

/-- **Answers to programs that hand over tasks**: the tasks are interleaved in
any way whatever, and all of them end. -/
def Answers (answer : Proc.Handler Q σ) : Proc.Answers (Concurrent Q) (Chronicle Q σ)
  | .timed op, s, answered =>
    let now := Timeline.handler answer op s.time
    answered = (now.1, { s with time := now.2 })
  | .together tasks, s, answered =>
    ∃ last, Group.Reaches answer (Group.Moment.start tasks s.time) last ∧ last.Over
      ∧ answered = (last.ended.map Prod.snd, ⟨last.time, s.journals ++ last.ended.map Prod.fst⟩)

/-- Handing over tasks, and what comes after that. -/
theorem runs_together_bind {answer : Proc.Handler Q σ} {tasks : List (Attempt (Timed Q) δ β)}
    {next : List (Outcome δ β) → Attempt (Concurrent Q) ε α} {s : Chronicle Q σ}
    {ended : Outcome ε α × Chronicle Q σ} :
    (together tasks >>= next).Runs (Answers answer) s ended
      ↔ ∃ last, Group.Reaches answer (Group.Moment.start (tasks.map ExceptT.run) s.time) last
        ∧ last.Over ∧ (next (last.ended.map Prod.snd)).Runs (Answers answer)
          ⟨last.time, s.journals ++ last.ended.map Prod.fst⟩ ended := by
  constructor
  · rintro ⟨_, ⟨last, hreaches, hover, rfl⟩, hnext⟩
    exact ⟨last, hreaches, hover, hnext⟩
  · rintro ⟨last, hreaches, hover, hnext⟩
    exact ⟨_, ⟨last, hreaches, hover, rfl⟩, hnext⟩

end Concurrent

/-- **Answers to a program that runs a network**, as it hands over tasks. -/
def Deployment.Answers (deployment : Deployment κ σ) :
    Proc.Answers (Network κ) (Chronicle (Clients κ) σ)
  | .concurrent op, s, answered => Concurrent.Answers deployment.answer op s answered
  | op, s, answered =>
    let now := deployment.handler op s.time
    answered = (now.1, { s with time := now.2 })

/-- Handing over tasks in a program that changes something, and what comes
after that. -/
theorem Action.runs_calling_together_bind {deployment : Deployment κ σ}
    {tasks : List (Attempt (Timed (Clients κ)) δ β)}
    {next : List (Outcome δ β) → Action τ (Network κ) ε α} {before : τ}
    {s : Chronicle (Clients κ) σ} {ended : (Outcome ε α × τ) × Chronicle (Clients κ) σ} :
    (Action.calling (Concurrent.together tasks) >>= next).Runs deployment.Answers before s ended
      ↔ ∃ last, Group.Reaches deployment.answer
          (Group.Moment.start (tasks.map ExceptT.run) s.time) last
        ∧ last.Over ∧ (next (last.ended.map Prod.snd)).Runs deployment.Answers before
          ⟨last.time, s.journals ++ last.ended.map Prod.fst⟩ ended := by
  constructor
  · rintro ⟨_, ⟨last, hreaches, hover, rfl⟩, hnext⟩
    exact ⟨last, hreaches, hover, hnext⟩
  · rintro ⟨last, hreaches, hover, hnext⟩
    exact ⟨_, ⟨last, hreaches, hover, rfl⟩, hnext⟩

end LedgerNet
