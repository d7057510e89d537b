import LedgerNet.Program.Network
import LedgerNet.Proofs.Program.Running

/-!
# Running programs that change something

An action runs from a state and ends in one, whatever its outcome. The
equations say how the state goes along with the pieces of an action, for
runs that succeed: each piece runs from the state in which the one before it
ended.

Programs over a smaller interface can stand in a program over a larger one.
They run there as they run by themselves, against the part of the handler
that answers them.
-/

namespace LedgerNet

universe u v

namespace Proc

variable {I : Interface.{u}} {J : Interface.{v}} {σ α : Type}

/-- A program whose requests are answered by programs runs against a handler
that runs those. -/
theorem run_interpret (answer : (op : I.Op) → Proc J (I.Reply op)) (handler : Handler J σ)
    (p : Proc I α) (s : σ) :
    (p.interpret answer).run handler s = p.run (fun op s => (answer op).run handler s) s := by
  induction p generalizing s with
  | done value => rfl
  | ask op resume ih =>
    rw [interpret, run_bind, ih, run_ask]

end Proc

namespace Action

variable {I : Interface.{u}} {σ τ ρ ε δ α β : Type}

/-- **Running an action from a state**: its outcome, its state in the end,
and the memory of the handler. -/
def runOn (handler : Proc.Handler I τ) (p : Action σ I ε α) (s : σ) (t : τ) :
    (Outcome ε α × σ) × τ :=
  Proc.run handler (p.start s) t

variable {handler : Proc.Handler I τ} {p : Action σ I ε α} {next : α → Action σ I ε β}
  {value : α} {s s' : σ} {t t' : τ}

/-- What comes after an action runs from where that one ended. -/
theorem runOn_bind_ok (h : p.runOn handler s t = ((.ok value, s'), t')) :
    (p >>= next).runOn handler s t = (next value).runOn handler s' t' := by
  unfold runOn start at h ⊢
  rw [ExceptT.run_bind, StateT.run_bind, Proc.run_bind, h]

/-- An action that fails ends what would come after it. -/
theorem runOn_bind_error {cause : Failure ε}
    (h : p.runOn handler s t = ((.error cause, s'), t')) :
    (p >>= next).runOn handler s t = ((.error cause, s'), t') := by
  unfold runOn start at h ⊢
  rw [ExceptT.run_bind, StateT.run_bind, Proc.run_bind, h]
  rfl

@[simp] theorem runOn_state : (state : Action σ I ε σ).runOn handler s t = ((.ok s, s), t) := rfl

@[simp] theorem runOn_change (f : σ → σ) :
    (change f : Action σ I ε Unit).runOn handler s t = ((.ok (), f s), t) := rfl

theorem runOn_ofExcept {result : Except ε α} (h : result = .ok value) :
    (ofExcept result : Action σ I ε α).runOn handler s t = ((.ok value, s), t) := by
  rw [h]
  rfl

/-- A program that does not touch the state runs as it does by itself. -/
theorem runOn_lift {p : Attempt I ε α} (h : p.runOn handler t = (.ok value, t')) :
    (lift p : Action σ I ε α).runOn handler s t = ((.ok value, s), t') := by
  have hrun : (lift p : Action σ I ε α).runOn handler s t
      = (((p.runOn handler t).1, s), (p.runOn handler t).2) :=
    Proc.run_bind handler (ExceptT.run p) _ t
  rw [hrun, h]

/-- A request is answered. -/
theorem runOn_request (p : Proc I α) :
    (request p : Action σ I ε α).runOn handler s t
      = ((.ok (p.run handler t).1, s), (p.run handler t).2) := by
  refine runOn_lift ?_
  exact Proc.run_bind handler p _ t

theorem runOn_wrap (f : ε → δ) (h : p.runOn handler s t = ((.ok value, s'), t')) :
    (p.wrap f).runOn handler s t = ((.ok value, s'), t') := by
  unfold runOn start at h ⊢
  show Proc.run handler (StateT.run (ExceptT.run p >>= _) s) t = _
  rw [StateT.run_bind, Proc.run_bind, h]
  rfl

theorem runOn_outcome (h : p.runOn handler s t = ((.ok value, s'), t')) :
    (p.outcome : Action σ I δ _).runOn handler s t = ((.ok (.ok value), s'), t') := by
  unfold runOn start at h ⊢
  show Proc.run handler (StateT.run (ExceptT.run p >>= _) s) t = _
  rw [StateT.run_bind, Proc.run_bind, h]
  rfl

/-- An action on a part runs on the part and puts it back. -/
theorem runOn_within {part : ρ → σ} {put : σ → ρ → ρ} {whole : ρ}
    (h : p.runOn handler (part whole) t = ((.ok value, s'), t')) :
    (p.within part put).runOn handler whole t = ((.ok value, put s' whole), t') := by
  unfold runOn at h ⊢
  show Proc.run handler (p.start (part whole) >>= _) t = _
  rw [Proc.run_bind, h]
  rfl

/-- An action on a state of its own answers with it. -/
theorem runOn_alone (h : p.runOn handler s t = ((.ok value, s'), t')) :
    (p.alone s).runOn handler t = (.ok (value, s'), t') := by
  unfold runOn at h
  unfold Attempt.runOn
  show Proc.run handler (p.start s >>= _) t = _
  rw [Proc.run_bind, h]
  rfl

end Action

/-! ## Programs among others -/

section Lifted

variable {κ σ ε α : Type}

/-- A program of a single task runs as it does by itself. -/
theorem Concurrent.runOn_lift {Q : Interface.{0}} (answer : Proc.Handler Q σ)
    (p : Attempt (Timed Q) ε α) (t : Timeline σ) :
    (Concurrent.lift p).runOn (Concurrent.handler answer) t
      = p.runOn (Timeline.handler answer) t :=
  Proc.run_interpret _ _ _ t

/-- Tasks that are run together are the business of their group. -/
theorem Concurrent.runOn_together {Q : Interface.{0}} {δ β : Type} (answer : Proc.Handler Q σ)
    (tasks : List (Attempt (Timed Q) δ β)) (t : Timeline σ) :
    (Concurrent.together tasks : Attempt (Concurrent Q) ε _).runOn (Concurrent.handler answer) t
      = (.ok (Group.run answer (Group.start (tasks.map ExceptT.run) t) t).1,
        (Group.run answer (Group.start (tasks.map ExceptT.run) t) t).2) := rfl

variable (deployment : Deployment κ σ) (t : Timeline σ)

/-- A program that calls nodes runs against how the nodes answer. -/
theorem Network.runOn_lift (p : Attempt (Concurrent (Clients κ)) ε α) :
    (Network.lift p).runOn deployment.handler t
      = p.runOn (Concurrent.handler deployment.answer) t :=
  Proc.run_interpret _ _ _ t

theorem Network.runOn_liftTimed (p : Attempt (Timed (Clients κ)) ε α) :
    (Network.liftTimed p).runOn deployment.handler t
      = p.runOn (Timeline.handler deployment.answer) t :=
  (Network.runOn_lift deployment t _).trans (Concurrent.runOn_lift _ p t)

end Lifted

end LedgerNet
