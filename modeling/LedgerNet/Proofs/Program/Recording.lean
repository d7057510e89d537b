import LedgerNet.Proofs.Program.History

/-!
# A record changes nothing

What is known of histories is known of runs that are on record. Nobody reads
the record, so a run without it is the same: the same answers are given at the
same times, and the world is the one beside the record
(`Action.runOn_unrecorded`). Therefore every run has a history
(`Action.exists_unfolds`), and what holds of all histories of a program can
be said of its runs on a deployment as it is.
-/

namespace LedgerNet

variable {κ σ τ ε α β : Type}

/-- A timeline without its record. -/
def Timeline.unrecorded (t : Timeline (σ × List (NetworkEvent κ))) : Timeline σ :=
  { t with world := t.world.1 }

/-- An answer without the record of it. -/
def unrecordedAnswer (answered : α × Timeline (σ × List (NetworkEvent κ))) : α × Timeline σ :=
  (answered.1, answered.2.unrecorded)

variable (deployment : Deployment κ σ)

theorem Thread.instantHandler_unrecorded (op : TimedOp (Clients κ))
    (t : Timeline (σ × List (NetworkEvent κ))) :
    instantHandler deployment.answer op t.unrecorded
      = unrecordedAnswer (instantHandler deployment.recorded.answer op t) := by
  cases op <;> rfl

/-- **A turn** goes as far as it would with a record. -/
theorem Thread.turn_unrecorded (p : Proc (Timed (Clients κ)) β)
    (t : Timeline (σ × List (NetworkEvent κ))) :
    turn deployment.answer p t.unrecorded
      = unrecordedAnswer (turn deployment.recorded.answer p t) := by
  induction p generalizing t with
  | done value => rfl
  | ask op resume ih =>
    unfold turn
    have hpause : pause? t.unrecorded op = pause? t op := by cases op <;> rfl
    rw [instantHandler_unrecorded, hpause]
    dsimp only
    cases pause? t op with
    | some wake => rfl
    | none => exact ih _ _

/-- **A group** is run as it would be with a record: whose turn it is does not
depend on the world. -/
theorem Group.run_unrecorded (threads : List (Thread (Clients κ) β))
    (t : Timeline (σ × List (NetworkEvent κ))) :
    run deployment.answer threads t.unrecorded
      = unrecordedAnswer (run deployment.recorded.answer threads t) := by
  induction threads, t using run.induct deployment.recorded.answer with
  | case1 threads t hpick =>
    rw [run, run, hpick]
    rfl
  | case2 threads t pick hpick taken ih =>
    have hturn : Thread.turn deployment.answer pick.next.rest
        (t.unrecorded.advancedTo pick.next.wake) = unrecordedAnswer taken :=
      Thread.turn_unrecorded deployment pick.next.rest (t.advancedTo pick.next.wake)
    rw [run, run, hpick]
    dsimp only
    rw [hturn]
    exact ih

/-- **What is answered to a request** does not depend on the record. -/
theorem Deployment.handler_unrecorded (op : NetworkOp κ)
    (t : Timeline (σ × List (NetworkEvent κ))) :
    deployment.handler op t.unrecorded = unrecordedAnswer (deployment.recorded.handler op t) := by
  cases op with
  | concurrent op =>
    cases op with
    | timed op => cases op <;> rfl
    | together tasks => exact Group.run_unrecorded deployment (Group.start tasks t) t
  | start spec => rfl
  | stop id grace => rfl
  | connect ip => rfl

/-- **A run without a record** is the run with it, and the record left out. -/
theorem Proc.run_unrecorded (p : Proc (Network κ) α)
    (t : Timeline (σ × List (NetworkEvent κ))) :
    p.run deployment.handler t.unrecorded
      = unrecordedAnswer (p.run deployment.recorded.handler t) := by
  induction p generalizing t with
  | done value => rfl
  | ask op resume ih =>
    rw [run_ask, run_ask, deployment.handler_unrecorded op t]
    exact ih _ _

/-- **An action ends as it does on record**, in the same state. -/
theorem Action.runOn_unrecorded (p : Action τ (Network κ) ε α) (s : τ)
    (t : Timeline (σ × List (NetworkEvent κ))) :
    p.runOn deployment.handler s t.unrecorded
      = unrecordedAnswer (p.runOn deployment.recorded.handler s t) :=
  Proc.run_unrecorded deployment (p.start s) t

/-- **Every run has a history**, whether or not somebody has put it on
record. -/
theorem Action.exists_unfolds {p : Action τ (Network κ) ε α} {s left : τ} {t ended : Timeline σ}
    {outcome : Outcome ε α}
    (h : p.runOn deployment.handler s t = ((outcome, left), ended)) :
    ∃ history, p.Unfolds s history outcome left := by
  let blank : Timeline (σ × List (NetworkEvent κ)) := { t with world := (t.world, []) }
  obtain ⟨history, -, hunfolds⟩ := unfolds_runOn deployment p s blank
  have hrun : (p.runOn deployment.recorded.handler s blank).1 = (outcome, left) :=
    congrArg Prod.fst ((runOn_unrecorded deployment p s blank).symm.trans h)
  rw [hrun] at hunfolds
  exact ⟨history, hunfolds⟩

end LedgerNet
