import LedgerNet.Proofs.Program.History

/-!
# What a deployment keeps

A property of the world that every answer of a deployment keeps is kept by
every program that runs on it, whatever the program is and however the turns
of its tasks fall. Together with the record of a run this says how what has
happened and the world go together: a property of both that each event keeps
holds in the end if it held in the beginning.
-/

namespace LedgerNet

variable {κ σ τ ε α β : Type}

/-- **A deployment keeps a property** of its world. -/
structure Deployment.Keeps (deployment : Deployment κ σ) (holds : σ → Prop) : Prop where
  answer : ∀ question world, holds world → holds (deployment.answer question world).2
  start : ∀ spec world, holds world → holds (deployment.start spec world).2
  stop : ∀ id grace world, holds world → holds (deployment.stop id grace world).2
  connect : ∀ ip world, holds world → holds (deployment.connect ip world).2

variable {deployment : Deployment κ σ} {holds : σ → Prop}

/-- A turn of a task keeps what the answers keep. -/
theorem Thread.turn_keeps (h : deployment.Keeps holds) (p : Proc (Timed (Clients κ)) β)
    (t : Timeline σ) (ht : holds t.world) : holds (turn deployment.answer p t).2.world := by
  induction p generalizing t with
  | done value => exact ht
  | ask op resume ih =>
    have hanswered : holds (instantHandler deployment.answer op t).2.world := by
      cases op with
      | query question => exact h.answer question t.world ht
      | sleep d => exact ht
      | elapsed => exact ht
      | timeOfDay => exact ht
    unfold turn
    dsimp only
    cases pause? t op with
    | some wake => exact hanswered
    | none => exact ih _ _ hanswered

/-- A group of tasks keeps what its turns keep. -/
theorem Group.run_keeps (h : deployment.Keeps holds) (threads : List (Thread (Clients κ) β))
    (t : Timeline σ) (ht : holds t.world) :
    holds (run deployment.answer threads t).2.world := by
  induction threads, t using run.induct deployment.answer with
  | case1 threads t hpick =>
    rw [run, hpick]
    exact ht
  | case2 threads t pick hpick taken ih =>
    rw [run, hpick]
    exact ih (Thread.turn_keeps h _ _ ht)

namespace Deployment.Keeps

variable (h : deployment.Keeps holds)
include h

/-- Every request keeps what the deployment keeps. -/
theorem handler (op : NetworkOp κ) (t : Timeline σ) (ht : holds t.world) :
    holds (deployment.handler op t).2.world := by
  cases op with
  | concurrent op =>
    cases op with
    | timed op =>
      cases op with
      | query question => exact h.answer question t.world ht
      | sleep d => exact ht
      | elapsed => exact ht
      | timeOfDay => exact ht
    | together tasks => exact Group.run_keeps h (Group.start tasks t) t ht
  | start spec => exact h.start spec t.world ht
  | stop id grace => exact h.stop id grace t.world ht
  | connect ip => exact h.connect ip t.world ht

/-- **Every program keeps** what the deployment keeps. -/
theorem run (p : Proc (Network κ) α) (t : Timeline σ) (ht : holds t.world) :
    holds (p.run deployment.handler t).2.world := by
  induction p generalizing t with
  | done value => exact ht
  | ask op resume ih =>
    rw [Proc.run_ask]
    exact ih _ _ (h.handler op t ht)

/-- **Every action keeps** what the deployment keeps. -/
theorem runOn (p : Action τ (Network κ) ε α) (s : τ) (t : Timeline σ) (ht : holds t.world) :
    holds (p.runOn deployment.handler s t).2.world :=
  h.run (p.start s) t ht

end Deployment.Keeps

/-- **What a deployment keeps together with its record**: it is enough that it
is kept by each event that the deployment adds to it. -/
theorem Deployment.keeps_recorded (holds : σ → List (NetworkEvent κ) → Prop)
    (answer : ∀ question world history, holds world history →
      holds (deployment.answer question world).2
        (history ++ [.query ⟨question, (deployment.answer question world).1⟩]))
    (start : ∀ spec world history, holds world history →
      holds (deployment.start spec world).2
        (history ++ [.start spec (deployment.start spec world).1]))
    (stop : ∀ id grace world history, holds world history →
      holds (deployment.stop id grace world).2
        (history ++ [.stop id grace (deployment.stop id grace world).1]))
    (connect : ∀ ip world history, holds world history →
      holds (deployment.connect ip world).2
        (history ++ [.connect ip (deployment.connect ip world).1])) :
    deployment.recorded.Keeps fun memory => holds memory.1 memory.2 where
  answer question memory := answer question memory.1 memory.2
  start spec memory := start spec memory.1 memory.2
  stop id grace memory := stop id grace memory.1 memory.2
  connect ip memory := connect ip memory.1 memory.2

end LedgerNet
