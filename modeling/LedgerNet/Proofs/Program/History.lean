import LedgerNet.Program.Network
import LedgerNet.Proofs.Program.Conversation
import LedgerNet.Proofs.Program.Looking
import Mathlib.Data.List.Forall2

/-!
# Histories

A program that runs a network starts and stops services, binds clients and
calls nodes, and each of these may fail in its own way. What it does in a
run, together with what came of it, is a history: the events of the run in
their order. `Proc.Unfolds` says which histories a program can have and what
each of them ends with. It lets every request be answered by anything at
all, and tasks that run together speak in any order, so what holds of all
histories of a program holds on every deployment, however its nodes behave
and however the turns of the tasks fall.

That the record of a run is such a history is `Action.unfolds_runOn`. Groups
of tasks are where this takes work: a turn of a task moves its conversation
forward and leaves those of the others as they are
(`Group.talkTogether_run`).
-/

namespace LedgerNet

variable {κ σ τ ε δ α β : Type}

/-- **Something that happens on a network**: a request and what came of
it. -/
inductive NetworkEvent (κ : Type) where
  | start (spec : ServiceSpec) (reply : Except ServiceError Ip)
  | stop (id : String) (grace : Duration) (reply : Except ServiceError Unit)
  | connect (ip : Ip) (reply : Except ApiError κ)
  | query (exchange : Exchange (Clients κ))

/-- **What tasks say that run together.** Each has a conversation of its own,
and the exchanges of all of them come in some order. -/
def Proc.TalkTogether {Q : Interface.{0}} (tasks : List (Proc (Timed Q) β))
    (log : List (Exchange Q)) (values : List β) : Prop :=
  ∃ talks : List (List (Exchange Q) × β),
    List.Forall₂ (fun task talk => Proc.Talk task talk.1 talk.2) tasks talks
      ∧ values = talks.map Prod.snd ∧ log.Perm (talks.map Prod.fst).flatten

/-- **What can happen while a request is answered.** That time passes is no
event. -/
def NetworkOp.Happens : (op : NetworkOp κ) → List (NetworkEvent κ) → op.Reply → Prop
  | .concurrent (.timed op), events, reply =>
    events = (TimedOp.exchanges op reply).map .query
  | .concurrent (.together tasks), events, values =>
    ∃ log, events = log.map .query ∧ Proc.TalkTogether tasks log values
  | .start spec, events, reply => events = [.start spec reply]
  | .stop id grace, events, reply => events = [.stop id grace reply]
  | .connect ip, events, reply => events = [.connect ip reply]

namespace Proc

/-- **The histories of a program**, and what they end with. -/
def Unfolds : Proc (Network κ) α → List (NetworkEvent κ) → α → Prop
  | done value, history, result => history = [] ∧ result = value
  | ask op resume, history, result =>
    ∃ reply events rest, history = events ++ rest ∧ NetworkOp.Happens op events reply
      ∧ (resume reply).Unfolds rest result

/-- A history of a program after another goes through both. -/
theorem unfolds_bind {p : Proc (Network κ) α} {next : α → Proc (Network κ) β}
    {history : List (NetworkEvent κ)} {result : β} : (p >>= next).Unfolds history result
      ↔ ∃ value before after, history = before ++ after ∧ p.Unfolds before value
        ∧ (next value).Unfolds after result := by
  induction p generalizing history with
  | done value =>
    constructor
    · intro h
      exact ⟨value, [], history, rfl, ⟨rfl, rfl⟩, h⟩
    · rintro ⟨_, _, after, rfl, ⟨rfl, rfl⟩, h⟩
      exact h
  | ask op resume ih =>
    constructor
    · rintro ⟨reply, events, rest, rfl, hevents, h⟩
      obtain ⟨value, before, after, rfl, hbefore, hafter⟩ := (ih reply).1 h
      exact ⟨value, _, after, (List.append_assoc _ _ _).symm,
        ⟨reply, events, before, rfl, hevents, hbefore⟩, hafter⟩
    · rintro ⟨value, _, after, rfl, ⟨reply, events, before, rfl, hevents, hbefore⟩, hafter⟩
      exact ⟨reply, events, before ++ after, List.append_assoc _ _ _, hevents,
        (ih reply).2 ⟨value, before, after, rfl, hbefore, hafter⟩⟩

/-- A program of a single task has its conversations as histories. -/
theorem talk_of_unfolds_lift {p : Proc (Timed (Clients κ)) α} {history : List (NetworkEvent κ)}
    {result : α}
    (h : ((p.interpret fun op => ask (I := Concurrent (Clients κ)) (.timed op) done).interpret
      fun op => ask (I := Network κ) (.concurrent op) done).Unfolds history result) :
    ∃ log, history = log.map .query ∧ p.Talk log result := by
  induction p generalizing history with
  | done value => exact ⟨[], h.1, rfl, h.2⟩
  | ask op resume ih =>
    obtain ⟨reply, events, rest, rfl, hevents, h⟩ := h
    obtain rfl : events = (TimedOp.exchanges op reply).map .query := hevents
    obtain ⟨log, rfl, htalk⟩ := ih reply h
    exact ⟨TimedOp.exchanges op reply ++ log, List.map_append.symm, reply, log, rfl, htalk⟩

end Proc

/-! ## Actions -/

namespace Action

/-- **The histories of an action from a state**: how it ends after one, and
in which state. -/
def Unfolds (p : Action σ (Network κ) ε α) (s : σ) (history : List (NetworkEvent κ))
    (outcome : Outcome ε α) (left : σ) : Prop :=
  Proc.Unfolds (p.start s) history (outcome, left)

variable {p : Action σ (Network κ) ε α} {next : α → Action σ (Network κ) ε β} {s left : σ}
  {history : List (NetworkEvent κ)}

/-- **A history of an action after another**: the first one fails and that is
all, or both are gone through. -/
theorem unfolds_bind {outcome : Outcome ε β} : (p >>= next).Unfolds s history outcome left
    ↔ (∃ cause, p.Unfolds s history (.error cause) left ∧ outcome = .error cause)
      ∨ ∃ value between before after, history = before ++ after
        ∧ p.Unfolds s before (.ok value) between
        ∧ (next value).Unfolds between after outcome left := by
  unfold Unfolds start
  rw [ExceptT.run_bind, StateT.run_bind, Proc.unfolds_bind]
  constructor
  · rintro ⟨⟨ended, between⟩, before, after, rfl, hbefore, hafter⟩
    cases ended with
    | ok value => exact Or.inr ⟨value, between, before, after, rfl, hbefore, hafter⟩
    | error cause =>
      obtain ⟨rfl, hended⟩ := hafter
      obtain ⟨rfl, rfl⟩ := Prod.mk.inj hended
      exact Or.inl ⟨cause, by rwa [List.append_nil], rfl⟩
  · rintro (⟨cause, h, rfl⟩ | ⟨value, between, before, after, rfl, hbefore, hafter⟩)
    · exact ⟨(.error cause, left), history, [], (List.append_nil _).symm, h, rfl, rfl⟩
    · exact ⟨(.ok value, between), before, after, rfl, hbefore, hafter⟩

theorem unfolds_ofOutcome {ended outcome : Outcome ε α} :
    (ofOutcome ended : Action σ (Network κ) ε α).Unfolds s history outcome left
      ↔ history = [] ∧ outcome = ended ∧ left = s := by
  constructor
  · rintro ⟨rfl, h⟩
    obtain ⟨rfl, rfl⟩ := Prod.mk.inj h
    exact ⟨rfl, rfl, rfl⟩
  · rintro ⟨rfl, rfl, rfl⟩
    exact ⟨rfl, rfl⟩

theorem unfolds_pure {value : α} {outcome : Outcome ε α} :
    (pure value : Action σ (Network κ) ε α).Unfolds s history outcome left
      ↔ history = [] ∧ outcome = .ok value ∧ left = s :=
  unfolds_ofOutcome

theorem unfolds_fail {cause : ε} {outcome : Outcome ε α} :
    (fail cause : Action σ (Network κ) ε α).Unfolds s history outcome left
      ↔ history = [] ∧ outcome = Outcome.failed cause ∧ left = s :=
  unfolds_ofOutcome

/-- Looking at the state is no event. -/
theorem unfolds_state_bind {next : σ → Action σ (Network κ) ε β} {outcome : Outcome ε β} :
    (state >>= next).Unfolds s history outcome left
      ↔ (next s).Unfolds s history outcome left :=
  Iff.rfl

/-- Changing the state is no event. -/
theorem unfolds_change_bind {f : σ → σ} {next : Unit → Action σ (Network κ) ε β}
    {outcome : Outcome ε β} :
    (change f >>= next).Unfolds s history outcome left
      ↔ (next ()).Unfolds (f s) history outcome left :=
  Iff.rfl

/-- A result that is an error ends an action, and one that is none is taken
along. -/
theorem unfolds_ofExcept_bind {result : Except ε α} {outcome : Outcome ε β} :
    (ofExcept result >>= next).Unfolds s history outcome left
      ↔ (∃ cause, result = .error cause ∧ history = [] ∧ outcome = Outcome.failed cause
          ∧ left = s)
        ∨ ∃ value, result = .ok value ∧ (next value).Unfolds s history outcome left := by
  cases result with
  | error cause =>
    refine Iff.trans unfolds_fail ?_
    simp
  | ok value =>
    constructor
    · intro h
      exact Or.inr ⟨value, rfl, h⟩
    · rintro (⟨cause, h, -⟩ | ⟨other, h, hnext⟩)
      · cases h
      · obtain rfl := Except.ok.inj h
        exact hnext

/-- A request to a service or for a client is one event. -/
theorem unfolds_request_bind {op : NetworkOp κ} {next : op.Reply → Action σ (Network κ) ε β}
    {outcome : Outcome ε β}
    (h : (request (Proc.ask (I := Network κ) op Proc.done) >>= next).Unfolds s history outcome
      left) :
    ∃ reply events rest, history = events ++ rest ∧ op.Happens events reply
      ∧ (next reply).Unfolds s rest outcome left :=
  h

/-- A program that does not touch the state has the histories that it has by
itself. -/
theorem unfolds_lift {p : Attempt (Network κ) ε α} {outcome : Outcome ε α}
    (h : (lift p : Action σ (Network κ) ε α).Unfolds s history outcome left) :
    left = s ∧ Proc.Unfolds (ExceptT.run p) history outcome := by
  obtain ⟨ended, before, after, rfl, hbefore, rfl, hended⟩ := Proc.unfolds_bind.1 h
  obtain ⟨rfl, rfl⟩ := Prod.mk.inj hended
  exact ⟨rfl, by rwa [List.append_nil]⟩

/-- What a program of a single task says is all that happens. -/
theorem unfolds_lift_timed {p : Attempt (Timed (Clients κ)) ε α} {outcome : Outcome ε α}
    (h : (lift (Network.liftTimed p) : Action σ (Network κ) ε α).Unfolds s history outcome
      left) :
    left = s ∧ ∃ log, history = log.map .query ∧ p.Talk log outcome := by
  obtain ⟨hleft, hproc⟩ := unfolds_lift h
  exact ⟨hleft, Proc.talk_of_unfolds_lift hproc⟩

/-- What tasks say that run together is all that happens. -/
theorem unfolds_lift_together {tasks : List (Attempt (Timed (Clients κ)) δ β)}
    {outcome : Outcome ε (List (Outcome δ β))}
    (h : (lift (Network.lift (Concurrent.together tasks)) : Action σ (Network κ) ε _).Unfolds s
      history outcome left) :
    left = s ∧ ∃ log values, history = log.map .query ∧ outcome = .ok values
      ∧ Proc.TalkTogether (tasks.map ExceptT.run) log values := by
  obtain ⟨hleft, values, events, rest, rfl, ⟨log, rfl, htalk⟩, rfl, rfl⟩ := unfolds_lift h
  exact ⟨hleft, log, values, List.append_nil _, rfl, htalk⟩

/-- What is done to an outcome is no event. -/
theorem unfolds_mk_bind {f : Outcome ε α → Outcome δ β} {outcome : Outcome δ β}
    (h : Unfolds (ExceptT.mk (ExceptT.run p >>= fun ended => pure (f ended)) :
      Action σ (Network κ) δ β) s history outcome left) :
    ∃ ended, p.Unfolds s history ended left ∧ outcome = f ended := by
  obtain ⟨⟨ended, between⟩, before, after, rfl, hbefore, rfl, hended⟩ := Proc.unfolds_bind.1 h
  obtain ⟨rfl, rfl⟩ := Prod.mk.inj hended
  exact ⟨ended, by rwa [List.append_nil], rfl⟩

/-- Where the outcome of an action is looked at, what comes after it goes on
whatever the outcome is. -/
theorem unfolds_outcome_bind {next : Outcome ε α → Action σ (Network κ) δ β}
    {outcome : Outcome δ β} (h : (p.outcome >>= next).Unfolds s history outcome left) :
    ∃ ended between before after, history = before ++ after ∧ p.Unfolds s before ended between
      ∧ (next ended).Unfolds between after outcome left := by
  rcases unfolds_bind.1 h with
    ⟨cause, hended, rfl⟩ | ⟨ended, between, before, after, rfl, hended, h⟩
  · obtain ⟨_, -, hnever⟩ := unfolds_mk_bind hended
    cases hnever
  · obtain ⟨outcome, hp, hok⟩ := unfolds_mk_bind hended
    obtain rfl := Except.ok.inj hok
    exact ⟨ended, between, before, after, rfl, hp, h⟩

/-- An action whose result nobody wants ends as it does where somebody does. -/
theorem unfolds_discard {outcome : Outcome ε Unit}
    (h : (p >>= fun _ => pure ()).Unfolds s history outcome left) :
    ∃ ended, p.Unfolds s history ended left ∧ outcome = ended.map fun _ => () := by
  rcases unfolds_bind.1 h with ⟨cause, hfailed, rfl⟩ | ⟨value, _, _, _, rfl, hended, hpure⟩
  · exact ⟨.error cause, hfailed, rfl⟩
  · obtain ⟨rfl, rfl, rfl⟩ := unfolds_pure.1 hpure
    exact ⟨.ok value, by rwa [List.append_nil], rfl⟩

/-- An action on a part of a state has the histories that it has on the part
alone. -/
theorem unfolds_within {part : τ → σ} {put : σ → τ → τ} {whole left : τ} {outcome : Outcome ε α}
    (h : (p.within part put).Unfolds whole history outcome left) :
    ∃ ended, p.Unfolds (part whole) history outcome ended ∧ left = put ended whole := by
  obtain ⟨⟨ended, last⟩, before, after, rfl, hbefore, rfl, hended⟩ := Proc.unfolds_bind.1 h
  obtain ⟨rfl, rfl⟩ := Prod.mk.inj hended
  exact ⟨last, by rwa [List.append_nil], rfl⟩

end Action

/-! ## Runs on record -/

/-- **A deployment with a record** of all that happens on it. -/
def Deployment.recorded (deployment : Deployment κ σ) :
    Deployment κ (σ × List (NetworkEvent κ)) where
  answer question memory :=
    let answered := deployment.answer question memory.1
    (answered.1, (answered.2, memory.2 ++ [.query ⟨question, answered.1⟩]))
  start spec memory :=
    let started := deployment.start spec memory.1
    (started.1, (started.2, memory.2 ++ [.start spec started.1]))
  stop id grace memory :=
    let stopped := deployment.stop id grace memory.1
    (stopped.1, (stopped.2, memory.2 ++ [.stop id grace stopped.1]))
  connect ip memory :=
    let bound := deployment.connect ip memory.1
    (bound.1, (bound.2, memory.2 ++ [.connect ip bound.1]))

section Recorded

variable (deployment : Deployment κ σ)

/-- The record of what a task has said so far goes on with what it says in a
turn, and so does its conversation. -/
theorem Thread.talk_turn (p : Proc (Timed (Clients κ)) β)
    (t : Timeline (σ × List (NetworkEvent κ))) :
    ∃ log, (turn deployment.recorded.answer p t).2.world.2 = t.world.2 ++ log.map .query
      ∧ ∀ rest value, (turn deployment.recorded.answer p t).1.rest.Talk rest value →
        p.Talk (log ++ rest) value := by
  induction p generalizing t with
  | done value => exact ⟨[], (List.append_nil _).symm, fun rest value h => h⟩
  | ask op resume ih =>
    unfold turn
    -- what is answered is on record, whether or not the task then rests
    have hrecord : (instantHandler deployment.recorded.answer op t).2.world.2 = t.world.2
        ++ (TimedOp.exchanges op (instantHandler deployment.recorded.answer op t).1).map
          .query := by
      cases op with
      | query question => rfl
      | sleep d => exact (List.append_nil _).symm
      | elapsed => exact (List.append_nil _).symm
      | timeOfDay => exact (List.append_nil _).symm
    generalize instantHandler deployment.recorded.answer op t = answered at hrecord
    dsimp only
    cases pause? t op with
    | some wake => exact ⟨_, hrecord, fun rest value h => ⟨answered.1, rest, rfl, h⟩⟩
    | none =>
      obtain ⟨log, hlog, htalk⟩ := ih answered.1 answered.2
      refine ⟨TimedOp.exchanges op answered.1 ++ log, ?_, fun rest value h => ?_⟩
      · rw [hlog, hrecord, List.append_assoc, List.map_append]
      · exact ⟨answered.1, log ++ rest, List.append_assoc _ _ _, htalk rest value h⟩

/-- Tasks that have all ended say no more. -/
theorem Group.talkTogether_of_ended {threads : List (Thread (Clients κ) β)}
    (h : ∀ thread ∈ threads, ∃ value, thread.rest = .done value) :
    Proc.TalkTogether (threads.map Thread.rest) [] (threads.filterMap Thread.value?) := by
  induction threads with
  | nil => exact ⟨[], .nil, rfl, .nil⟩
  | cons thread rest ih =>
    obtain ⟨⟨value, hvalue⟩, hrest⟩ := List.forall_mem_cons.1 h
    obtain ⟨talks, htalks, hvalues, hsaid⟩ := ih hrest
    have htalk : Proc.Talk thread.rest [] value := by
      rw [hvalue]
      exact ⟨rfl, rfl⟩
    have hended : thread.value? = some value := by
      unfold Thread.value?
      rw [hvalue]
    refine ⟨([], value) :: talks, .cons htalk htalks, ?_, hsaid⟩
    rw [List.filterMap_cons, hended, hvalues]
    rfl

/-- What some tasks say after one of them has gone on is, with what that one
said first, what they say from the beginning. -/
theorem Proc.TalkTogether.after_turn {Q : Interface.{0}} {before after : List (Proc (Timed Q) β)}
    {p q : Proc (Timed Q) β} {said log : List (Exchange Q)} {values : List β}
    (hturn : ∀ rest value, q.Talk rest value → p.Talk (said ++ rest) value)
    (h : TalkTogether (before ++ q :: after) log values) :
    TalkTogether (before ++ p :: after) (said ++ log) values := by
  obtain ⟨talks, htalks, rfl, hlog⟩ := h
  have hfront := List.forall₂_take before.length htalks
  have hback := List.forall₂_drop before.length htalks
  rw [List.take_left] at hfront
  rw [List.drop_left] at hback
  obtain ⟨talk, later, htalk, hlater, hdrop⟩ := List.forall₂_cons_left_iff.1 hback
  rw [← List.take_append_drop before.length talks, hdrop] at hlog ⊢
  refine ⟨talks.take before.length ++ (said ++ talk.1, talk.2) :: later, ?_, by simp, ?_⟩
  · exact List.rel_append hfront (.cons (hturn _ _ htalk) hlater)
  · simp only [List.map_append, List.map_cons, List.flatten_append, List.flatten_cons] at hlog ⊢
    refine (hlog.append_left said).trans ?_
    rw [← List.append_assoc, ← List.append_assoc, ← List.append_assoc, ← List.append_assoc]
    exact (List.perm_append_comm.append_right _).append_right _

/-- **The record of a group** has the conversations of its tasks. The induction
follows the turns: whoever takes one goes on with its own conversation. -/
theorem Group.talkTogether_run (threads : List (Thread (Clients κ) β))
    (t : Timeline (σ × List (NetworkEvent κ))) :
    ∃ log, (run deployment.recorded.answer threads t).2.world.2 = t.world.2 ++ log.map .query
      ∧ Proc.TalkTogether (threads.map Thread.rest) log
        (run deployment.recorded.answer threads t).1 := by
  induction threads, t using run.induct deployment.recorded.answer with
  | case1 threads t hpick =>
    rw [run, hpick]
    exact ⟨[], (List.append_nil _).symm, talkTogether_of_ended (pick?_eq_none hpick)⟩
  | case2 threads t pick hpick taken ih =>
    obtain ⟨said, hsaid, hturn⟩ := Thread.talk_turn deployment pick.next.rest
      (t.advancedTo pick.next.wake)
    obtain ⟨log, hlog, htalk⟩ := ih
    rw [(pick?_eq_some hpick).1, List.map_append, List.map_cons]
    rw [List.map_append, List.map_cons] at htalk
    rw [run, ← (pick?_eq_some hpick).1, hpick]
    refine ⟨said ++ log, ?_, htalk.after_turn hturn⟩
    calc (run deployment.recorded.answer (pick.before ++ taken.1 :: pick.after) taken.2).2.world.2
        = taken.2.world.2 ++ log.map .query := hlog
      _ = t.world.2 ++ (said ++ log).map .query := by
        rw [List.map_append, ← List.append_assoc]
        exact congrArg (· ++ log.map .query) hsaid

/-- What is answered to a request can happen, and it is on record. -/
theorem Deployment.happens_handler (op : NetworkOp κ)
    (t : Timeline (σ × List (NetworkEvent κ))) :
    ∃ events, (deployment.recorded.handler op t).2.world.2 = t.world.2 ++ events
      ∧ op.Happens events (deployment.recorded.handler op t).1 := by
  cases op with
  | concurrent op =>
    cases op with
    | timed op =>
      cases op with
      | query question => exact ⟨_, rfl, rfl⟩
      | sleep d => exact ⟨[], (List.append_nil _).symm, rfl⟩
      | elapsed => exact ⟨[], (List.append_nil _).symm, rfl⟩
      | timeOfDay => exact ⟨[], (List.append_nil _).symm, rfl⟩
    | together tasks =>
      obtain ⟨log, hlog, htalk⟩ := Group.talkTogether_run deployment (Group.start tasks t) t
      have hstart : (Group.start tasks t).map Thread.rest = tasks := by
        unfold Group.start
        rw [List.map_map]
        exact List.map_id tasks
      rw [hstart] at htalk
      exact ⟨log.map .query, hlog, log, rfl, htalk⟩
  | start spec => exact ⟨_, rfl, rfl⟩
  | stop id grace => exact ⟨_, rfl, rfl⟩
  | connect ip => exact ⟨_, rfl, rfl⟩

/-- **The record of a run is a history** of the program, and the run ends as
that history does. -/
theorem Proc.unfolds_run (p : Proc (Network κ) α) (t : Timeline (σ × List (NetworkEvent κ))) :
    ∃ history, (p.run deployment.recorded.handler t).2.world.2 = t.world.2 ++ history
      ∧ p.Unfolds history (p.run deployment.recorded.handler t).1 := by
  induction p generalizing t with
  | done value => exact ⟨[], (List.append_nil _).symm, rfl, rfl⟩
  | ask op resume ih =>
    rw [run_ask]
    obtain ⟨events, hevents, hhappens⟩ := deployment.happens_handler op t
    obtain ⟨rest, hrest, hunfolds⟩ := ih (deployment.recorded.handler op t).1
      (deployment.recorded.handler op t).2
    refine ⟨events ++ rest, ?_, _, events, rest, rfl, hhappens, hunfolds⟩
    rw [hrest, hevents, List.append_assoc]

/-- **The record of an action is a history** of it, from the state in which it
began to the one in which it ends. -/
theorem Action.unfolds_runOn (p : Action τ (Network κ) ε α) (s : τ)
    (t : Timeline (σ × List (NetworkEvent κ))) :
    ∃ history, (p.runOn deployment.recorded.handler s t).2.world.2 = t.world.2 ++ history
      ∧ p.Unfolds s history (p.runOn deployment.recorded.handler s t).1.1
        (p.runOn deployment.recorded.handler s t).1.2 :=
  Proc.unfolds_run deployment (p.start s) t

/-- Whatever has come to the record in a run is a history of the action. -/
theorem Action.unfolds_of_record {p : Action τ (Network κ) ε α} {s : τ}
    {t : Timeline (σ × List (NetworkEvent κ))} {history : List (NetworkEvent κ)}
    (hrecord : (p.runOn deployment.recorded.handler s t).2.world.2 = t.world.2 ++ history) :
    p.Unfolds s history (p.runOn deployment.recorded.handler s t).1.1
      (p.runOn deployment.recorded.handler s t).1.2 := by
  obtain ⟨other, hother, hunfolds⟩ := unfolds_runOn deployment p s t
  obtain rfl : other = history := List.append_cancel_left (hother.symm.trans hrecord)
  exact hunfolds

end Recorded

end LedgerNet
