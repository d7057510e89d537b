import LedgerNet.Program.Timed

/-!
# Programs that run together

Nodes that start together are waited for together, one task for each, and a
batch of balances is checked by as many tasks. Tasks share one clock and
one world. A task keeps the turn until it sleeps or ends; then the turn goes
to the task that wakes first, and of several that wake at one time to the
one that stands first in the group. The group ends when all of its tasks
have ended, whatever became of each.

Every turn takes one task to a program inside the one it was at, and
programs are finite in depth, so a group comes to an end. That is the
order `Group.Shrinks`, and the scheduler is defined by recursion on it.
-/

namespace LedgerNet

universe u

/-! ## The order in which groups shrink -/

namespace Group

variable {I : Interface.{u}} {β : Type}

/-- **A group shrinks** when one of its programs goes on to one inside it. -/
inductive Shrinks : List (Proc I β) → List (Proc I β) → Prop where
  | turn (before : List (Proc I β)) {p q : Proc I β} (after : List (Proc I β))
    (inside : Proc.Within q p) : Shrinks (before ++ q :: after) (before ++ p :: after)

private theorem acc_cons {ps : List (Proc I β)} (hps : Acc Shrinks ps) :
    ∀ p : Proc I β, Acc Shrinks (p :: ps) := by
  induction hps with
  | intro ps _ ihps =>
    intro p
    induction p using Proc.Within.wellFounded.induction with
    | _ p ihp =>
      refine Acc.intro _ fun qs hqs => ?_
      generalize hgroup : p :: ps = group at hqs
      cases hqs with
      | turn before after inside =>
        cases before with
        | nil =>
          simp only [List.nil_append, List.cons.injEq] at hgroup
          obtain ⟨rfl, rfl⟩ := hgroup
          exact ihp _ inside
        | cons first before =>
          simp only [List.cons_append, List.cons.injEq] at hgroup
          obtain ⟨rfl, rfl⟩ := hgroup
          exact ihps _ (Shrinks.turn before after inside) p

theorem Shrinks.wellFounded : WellFounded (@Shrinks I β) := by
  refine ⟨fun ps => ?_⟩
  induction ps with
  | nil =>
    refine Acc.intro _ fun qs hqs => ?_
    generalize hgroup : ([] : List (Proc I β)) = group at hqs
    cases hqs with
    | turn before after inside => simp at hgroup
  | cons p ps ih => exact acc_cons ih p

instance : WellFoundedRelation (List (Proc I β)) := ⟨Shrinks, Shrinks.wellFounded⟩

end Group

/-! ## Tasks -/

/-- **A task**: a program and the time at which it may go on. -/
structure Thread (Q : Interface.{0}) (β : Type) where
  wake : Duration
  rest : Proc (Timed Q) β

namespace Thread

variable {Q : Interface.{0}} {β σ : Type}

/-- What a task ended with, if it has ended. -/
def value? (thread : Thread Q β) : Option β :=
  match thread.rest with
  | .done value => some value
  | .ask _ _ => none

/-- When a request lets other tasks have the turn: a sleep that does not end
at once. -/
def pause? (t : Timeline σ) : TimedOp Q → Option Duration
  | .sleep d => if (t.wakeTime d).nanos ≤ t.now.nanos then none else some (t.wakeTime d)
  | _ => none

/-- The answer to a request that takes no time; to a sleep, what is answered
when it ends. -/
def instantHandler (answer : Proc.Handler Q σ) : Proc.Handler (Timed Q) (Timeline σ)
  | .query question, t =>
    let answered := answer question t.world
    (answered.1, { t with world := answered.2 })
  | .sleep _, t => ((), t)
  | .elapsed, t => (t.now, t)
  | .timeOfDay, t => (⟨t.epoch.nanos + t.now.nanos⟩, t)

/-- **One turn**: the program goes on until it sleeps or ends. -/
def turn (answer : Proc.Handler Q σ) : Proc (Timed Q) β → Timeline σ → Thread Q β × Timeline σ
  | .done value, t => (⟨t.now, .done value⟩, t)
  | .ask op resume, t =>
    let answered := instantHandler answer op t
    match pause? t op with
    | some wake => (⟨wake, resume answered.1⟩, answered.2)
    | none => turn answer (resume answered.1) answered.2

/-- A turn that is taken leads to a program inside. -/
theorem within_turn (answer : Proc.Handler Q σ) {p : Proc (Timed Q) β} (t : Timeline σ)
    (h : (⟨t.now, p⟩ : Thread Q β).value? = none) :
    Proc.Within (turn answer p t).1.rest p := by
  induction p generalizing t with
  | done value => simp [value?] at h
  | ask op resume ih =>
    simp only [turn]
    split
    · exact Proc.Within.here op resume _
    · generalize instantHandler answer op t = answered
      cases hrest : resume answered.1 with
      | done value =>
        have here := Proc.Within.here (α := β) op resume answered.1
        rw [hrest] at here
        simpa [turn] using here
      | ask op' resume' =>
        refine Proc.Within.further op resume answered.1 ?_
        rw [← hrest]
        exact ih answered.1 answered.2 (by simp [value?, hrest])

end Thread

namespace Group

variable {Q : Interface.{0}} {β σ : Type}

/-- The tasks before the next one, the next one, and the tasks after it. -/
structure Pick (Q : Interface.{0}) (β : Type) where
  before : List (Thread Q β)
  next : Thread Q β
  after : List (Thread Q β)

/-- **Whose turn it is**: of the tasks that have not ended, the one that
wakes first, the first of several. -/
def pick? : List (Thread Q β) → Option (Pick Q β)
  | [] => none
  | thread :: rest =>
    match thread.value?, pick? rest with
    | some _, none => none
    | some _, some pick => some { pick with before := thread :: pick.before }
    | none, none => some ⟨[], thread, rest⟩
    | none, some pick =>
      if thread.wake.nanos ≤ pick.next.wake.nanos then some ⟨[], thread, rest⟩
      else some { pick with before := thread :: pick.before }

theorem pick?_eq_some {threads : List (Thread Q β)} {pick : Pick Q β}
    (h : pick? threads = some pick) :
    threads = pick.before ++ pick.next :: pick.after ∧ pick.next.value? = none := by
  induction threads generalizing pick with
  | nil => simp [pick?] at h
  | cons thread rest ih =>
    simp only [pick?] at h
    split at h
    · simp at h
    · rename_i later hlater
      obtain rfl := Option.some.inj h
      exact ⟨by simp [(ih hlater).1.symm], (ih hlater).2⟩
    · rename_i hvalue _
      obtain rfl := Option.some.inj h
      exact ⟨rfl, hvalue⟩
    · rename_i hvalue later
      split at h
      · obtain rfl := Option.some.inj h
        exact ⟨rfl, hvalue⟩
      · obtain rfl := Option.some.inj h
        exact ⟨by simp [(ih later).1.symm], (ih later).2⟩

/-- **Running a group to its end.** The answer has the value of every task,
in the order of the group. -/
def run (answer : Proc.Handler Q σ) (threads : List (Thread Q β)) (t : Timeline σ) :
    List β × Timeline σ :=
  match _hpick : pick? threads with
  | none => (threads.filterMap Thread.value?, t)
  | some pick =>
    let taken := Thread.turn answer pick.next.rest (t.advancedTo pick.next.wake)
    run answer (pick.before ++ taken.1 :: pick.after) taken.2
termination_by threads.map Thread.rest
decreasing_by
  obtain ⟨hthreads, hvalue⟩ := pick?_eq_some _hpick
  rw [hthreads]
  simp only [List.map_append, List.map_cons]
  exact Shrinks.turn _ _ (Thread.within_turn answer _ hvalue)

/-- Programs that start now, as tasks. -/
def start (programs : List (Proc (Timed Q) β)) (t : Timeline σ) : List (Thread Q β) :=
  programs.map fun program => ⟨t.now, program⟩

end Group

/-! ## Groups as requests -/

/-- **What a program may ask that hands over tasks**: anything in time, or
for several programs to be run together. -/
inductive ConcurrentOp (Q : Interface.{0}) : Type 1 where
  | timed (op : TimedOp Q)
  | together {β : Type} (tasks : List (Proc (Timed Q) β))

/-- The answers: to a group, what each of its tasks ended with. -/
def ConcurrentOp.Reply {Q : Interface.{0}} : ConcurrentOp Q → Type
  | timed op => op.Reply
  | together (β := β) _ => List β

/-- **Questions in time and groups of tasks**, as an interface. -/
abbrev Concurrent (Q : Interface.{0}) : Interface.{1} := ⟨ConcurrentOp Q, ConcurrentOp.Reply⟩

namespace Concurrent

variable {Q : Interface.{0}} {ε α β : Type}

/-- A program in time, among those that hand over tasks. -/
def lift (p : Attempt (Timed Q) ε α) : Attempt (Concurrent Q) ε α :=
  ExceptT.mk (p.run.interpret fun op => Proc.ask (ConcurrentOp.timed op) Proc.done)

/-- **Runs tasks together** and waits for all of them. -/
def together (tasks : List (Attempt (Timed Q) δ β)) :
    Attempt (Concurrent Q) ε (List (Outcome δ β)) :=
  ExceptT.mk (Proc.ask (ConcurrentOp.together (tasks.map ExceptT.run))
    fun values => Proc.done (Except.ok values))

/-- Answers to programs that hand over tasks, given the answers to the
questions. -/
def handler {σ : Type} (answer : Proc.Handler Q σ) :
    Proc.Handler (Concurrent Q) (Timeline σ)
  | .timed op, t => Timeline.handler answer op t
  | .together tasks, t => Group.run answer (Group.start tasks t) t

end Concurrent

end LedgerNet
