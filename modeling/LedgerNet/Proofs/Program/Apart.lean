import LedgerNet.Proofs.Program.Conversation
import LedgerNet.Proofs.Program.Interleaving

/-!
# Tasks that have nothing to do with each other

Each task of a group may have a node of its own to ask, and each node may
answer from a memory of its own. Then nobody notices the others. Whatever the
interleaving, a task asks what it would ask by itself, is answered what it
would be answered by itself, and ends when it would end by itself; so all
interleavings come to the same, and the group ends when the slowest of its
tasks does (`Group.Moment.Apart.ended_eq`, `Group.Moment.Apart.isGreatest_now`).

What makes this true is that nobody is late. As long as a task has not ended,
the clock of the group does not pass the point in time at which the task may
go on, although other tasks use up any amount of turns before it does.
-/

namespace LedgerNet

variable {κ τ α β : Type}

/-! ## One node, one memory -/

/-- **Nodes that know nothing of each other**: each answers from a memory of
its own. -/
def answerApart [DecidableEq κ]
    (node : κ → (call : Call) → τ → Outcome ApiError call.Result × τ) :
    Proc.Handler (Clients κ) (κ → τ) := fun called memory =>
  let answered := node called.1 called.2 (memory called.1)
  (answered.1, Function.update memory called.1 answered.2)

/-- **A program that calls one node only**, whatever it is told. -/
def Proc.OnlyCalls (client : κ) (p : Proc (Timed (Clients κ)) β) : Prop :=
  ∀ log value, p.Talk log value → ∀ exchange ∈ log, exchange.question.1 = client

/-- A program that asks nothing calls no node. -/
theorem Proc.OnlyCalls.done (client : κ) (value : β) :
    Proc.OnlyCalls client (.done value) := by
  rintro _ _ ⟨rfl, -⟩ exchange hmem
  exact absurd hmem List.not_mem_nil

theorem Proc.OnlyCalls.bind {client : κ} {p : Proc (Timed (Clients κ)) α}
    {next : α → Proc (Timed (Clients κ)) β} (h : p.OnlyCalls client)
    (hnext : ∀ value, (next value).OnlyCalls client) : Proc.OnlyCalls client (p >>= next) := by
  intro log result htalk exchange hmem
  obtain ⟨value, before, after, rfl, hbefore, hafter⟩ := Proc.talk_bind.1 htalk
  rcases List.mem_append.1 hmem with hmem | hmem
  · exact h before value hbefore exchange hmem
  · exact hnext value after result hafter exchange hmem

/-- What is left after a request calls the same node. -/
theorem Proc.OnlyCalls.rest {client : κ} {op : TimedOp (Clients κ)}
    {resume : op.Reply → Proc (Timed (Clients κ)) β}
    (h : Proc.OnlyCalls client (.ask op resume)) (reply : op.Reply) :
    (resume reply).OnlyCalls client :=
  fun log value htalk exchange hmem =>
    h _ value ⟨reply, log, rfl, htalk⟩ exchange (List.mem_append_right _ hmem)

/-- **How a program ends by itself**: with which value, after which requests,
and when. -/
structure Ending (κ β : Type) where
  value : β
  journal : List (Proc.Entry (Timed (Clients κ)))
  now : Duration

/-- How a program ends of which something may have been run already. -/
def Proc.endingFrom (answer : Proc.Handler (Clients κ) τ) (p : Proc (Timed (Clients κ)) β)
    (t : Timeline τ) (written : List (Proc.Entry (Timed (Clients κ)))) : Ending κ β :=
  let ended := p.run (Proc.journaled (Timeline.handler answer)) (t, written)
  ⟨ended.1, ended.2.2, ended.2.1.now⟩

theorem Proc.endingFrom_ask (answer : Proc.Handler (Clients κ) τ) (op : TimedOp (Clients κ))
    (resume : op.Reply → Proc (Timed (Clients κ)) β) (t : Timeline τ)
    (written : List (Proc.Entry (Timed (Clients κ)))) :
    Proc.endingFrom answer (.ask op resume) t written
      = (resume (Timeline.handler answer op t).1).endingFrom answer (Timeline.handler answer op t).2
          (written ++ [⟨op, (Timeline.handler answer op t).1⟩]) := rfl

/-- Whoever makes a request may not go on before it. -/
theorem Thread.now_le_pause? {Q : Interface.{0}} (t : Timeline τ) (op : TimedOp Q) :
    t.now.nanos ≤ ((pause? t op).getD t.now).nanos := by
  cases op with
  | query question => exact le_rfl
  | elapsed => exact le_rfl
  | timeOfDay => exact le_rfl
  | sleep d =>
    unfold pause?
    dsimp only
    split
    · exact le_rfl
    · rename_i hlt
      exact (not_le.1 hlt).le

/-- In a turn a task is answered as it is by itself, and may go on when it may
by itself. -/
theorem Thread.handler_eq_instantHandler {Q : Interface.{0}} (answer : Proc.Handler Q τ)
    (op : TimedOp Q) (t : Timeline τ) :
    Timeline.handler answer op t = ((instantHandler answer op t).1,
      { (instantHandler answer op t).2 with now := (pause? t op).getD t.now }) := by
  cases op with
  | query question => rfl
  | elapsed => rfl
  | timeOfDay => rfl
  | sleep d =>
    show ((), t.advancedTo (t.wakeTime d)) = _
    unfold pause? Timeline.advancedTo
    dsimp only
    split
    · rename_i hle
      rw [max_eq_left hle]
      rfl
    · rename_i hlt
      rw [max_eq_right (not_le.1 hlt).le]
      rfl

/-! ## What one task notices -/

section Noticing

variable [DecidableEq κ] {node : κ → (call : Call) → τ → Outcome ApiError call.Result × τ}
  {client : κ}

/-- Such a program calls that node if it calls any. -/
theorem Proc.OnlyCalls.client_eq {called : κ × Call}
    {resume : Outcome ApiError called.2.Result → Proc (Timed (Clients κ)) β}
    (h : Proc.OnlyCalls client (.ask (.query called) resume)) (t : Timeline (κ → τ))
    (node : κ → (call : Call) → τ → Outcome ApiError call.Result × τ) : called.1 = client := by
  obtain ⟨log, -, reply, rest, rfl, htalk⟩ := Proc.talk_of_run (answerApart node)
    (.ask (.query called) resume) { t with world := (t.world, []) }
  exact h _ _ ⟨reply, rest, rfl, htalk⟩ ⟨called, reply⟩ List.mem_cons_self

/-- **Two timelines look alike** from where one node is called. -/
structure Timeline.Alike (client : κ) (t t' : Timeline (κ → τ)) : Prop where
  epoch_eq : t.epoch = t'.epoch
  now_eq : t.now = t'.now
  memory_eq : t.world client = t'.world client

/-- On timelines that look alike a request is answered alike, and leaves them
so. -/
theorem Timeline.Alike.handler {t t' : Timeline (κ → τ)} (halike : t.Alike client t')
    {op : TimedOp (Clients κ)} {resume : op.Reply → Proc (Timed (Clients κ)) β}
    (h : Proc.OnlyCalls client (.ask op resume))
    (node : κ → (call : Call) → τ → Outcome ApiError call.Result × τ) :
    (Timeline.handler (answerApart node) op t).1 = (Timeline.handler (answerApart node) op t').1
      ∧ (Timeline.handler (answerApart node) op t).2.Alike client
        (Timeline.handler (answerApart node) op t').2 := by
  obtain ⟨hepoch, hnow, hmemory⟩ := halike
  cases op with
  | query called =>
    have hanswer : node called.1 called.2 (t.world called.1)
        = node called.1 called.2 (t'.world called.1) := by
      rw [h.client_eq t node, hmemory]
    refine ⟨?_, hepoch, hnow, ?_⟩
    · show (node called.1 called.2 (t.world called.1)).1
        = (node called.1 called.2 (t'.world called.1)).1
      rw [hanswer]
    · show Function.update t.world called.1 (node called.1 called.2 (t.world called.1)).2 client
        = Function.update t'.world called.1 (node called.1 called.2 (t'.world called.1)).2 client
      rw [hanswer, h.client_eq t node, Function.update_self, Function.update_self]
  | sleep d =>
    refine ⟨rfl, hepoch, ?_, hmemory⟩
    show (t.advancedTo (t.wakeTime d)).now = (t'.advancedTo (t'.wakeTime d)).now
    unfold Timeline.advancedTo Timeline.wakeTime
    rw [hnow]
  | elapsed => exact ⟨hnow, hepoch, hnow, hmemory⟩
  | timeOfDay =>
    refine ⟨?_, hepoch, hnow, hmemory⟩
    show (⟨t.epoch.nanos + t.now.nanos⟩ : Duration) = ⟨t'.epoch.nanos + t'.now.nanos⟩
    rw [hepoch, hnow]

/-- **Nobody notices the others**: on timelines that look alike from where its
node is called a program ends alike. -/
theorem Proc.OnlyCalls.endingFrom_eq {p : Proc (Timed (Clients κ)) β} (h : p.OnlyCalls client)
    {t t' : Timeline (κ → τ)} (halike : t.Alike client t')
    (written : List (Proc.Entry (Timed (Clients κ)))) :
    p.endingFrom (answerApart node) t written = p.endingFrom (answerApart node) t' written := by
  induction p generalizing t t' written with
  | done value => exact congrArg (Ending.mk value written) halike.now_eq
  | ask op resume ih =>
    obtain ⟨hreply, hleft⟩ := halike.handler h node
    rw [endingFrom_ask, endingFrom_ask, hreply]
    exact ih _ (h.rest _) hleft _

/-- What others ask of their nodes leaves a timeline as it looks from here. -/
theorem Timeline.alike_instantHandler {other : κ} (hne : other ≠ client)
    {op : TimedOp (Clients κ)} {resume : op.Reply → Proc (Timed (Clients κ)) β}
    (h : Proc.OnlyCalls client (.ask op resume)) (t : Timeline (κ → τ)) (wake : Duration) :
    Timeline.Alike other { (Thread.instantHandler (answerApart node) op t).2 with now := wake }
      { t with now := wake } := by
  cases op with
  | sleep d => exact ⟨rfl, rfl, rfl⟩
  | elapsed => exact ⟨rfl, rfl, rfl⟩
  | timeOfDay => exact ⟨rfl, rfl, rfl⟩
  | query called =>
    refine ⟨rfl, rfl, ?_⟩
    show Function.update t.world called.1 _ other = t.world other
    rw [h.client_eq t node]
    exact Function.update_of_ne hne _ _

end Noticing

/-! ## Groups -/

namespace Group

variable [DecidableEq κ] (node : κ → (call : Call) → τ → Outcome ApiError call.Result × τ)

/-- **How a task stands** that nothing has to do with the others: it is not
late, and will end as its program does by itself. -/
structure Member.Apart (t time : Timeline (κ → τ)) (task : κ × Proc (Timed (Clients κ)) β)
    (member : Member (Clients κ) β) : Prop where
  only : member.thread.rest.OnlyCalls task.1
  punctual : time.now.nanos ≤ member.thread.wake.nanos ∨ member.Ended time.now
  ending : member.thread.rest.endingFrom (answerApart node)
      { time with now := member.thread.wake } member.journal
    = task.2.endingFrom (answerApart node) t []

/-- **How a group stands** whose tasks have nothing to do with each other. The
clock shows the time at which the group started, or one at which somebody may
go on. -/
structure Moment.Apart (t : Timeline (κ → τ)) (tasks : List (κ × Proc (Timed (Clients κ)) β))
    (m : Moment (Clients κ) β (κ → τ)) : Prop where
  members : List.Forall₂ (Member.Apart node t m.time) tasks m.members
  started : t.now.nanos ≤ m.time.now.nanos
  due : m.time.now = t.now
    ∨ ∃ member ∈ m.members, m.time.now.nanos ≤ member.thread.wake.nanos

variable {node} {t : Timeline (κ → τ)} {tasks : List (κ × Proc (Timed (Clients κ)) β)}
  {m next : Moment (Clients κ) β (κ → τ)}

/-- A group that has just started. -/
theorem apart_start (node : κ → (call : Call) → τ → Outcome ApiError call.Result × τ)
    (honly : ∀ task ∈ tasks, task.2.OnlyCalls task.1) (t : Timeline (κ → τ)) :
    (Moment.start (tasks.map Prod.snd) t).Apart node t tasks := by
  refine ⟨?_, le_rfl, Or.inl rfl⟩
  unfold Moment.start Group.start
  rw [List.map_map, List.map_map, List.forall₂_map_right_iff]
  exact List.forall₂_same.2 fun task hmem => ⟨honly task hmem, Or.inl le_rfl, rfl⟩

/-- The task that makes a request goes on as it does by itself. -/
theorem Member.Apart.asked {time : Timeline (κ → τ)} {task : κ × Proc (Timed (Clients κ)) β}
    {member : Member (Clients κ) β} (h : Member.Apart node t time task member)
    {op : TimedOp (Clients κ)} {resume : op.Reply → Proc (Timed (Clients κ)) β}
    (hrest : member.thread.rest = .ask op resume)
    (hawake : member.thread.wake.nanos ≤ time.now.nanos) :
    Member.Apart node t (Thread.instantHandler (answerApart node) op time).2 task
      (member.asked (answerApart node) op resume time) := by
  obtain ⟨honly, hpunctual, hending⟩ := h
  -- it is asked exactly when the task may go on, neither sooner nor later
  have hwake : member.thread.wake = time.now := by
    rcases hpunctual with hle | ⟨-, value, hdone⟩
    · exact congrArg Duration.mk (le_antisymm hawake hle)
    · rw [hrest] at hdone
      cases hdone
  rw [hrest] at honly hending
  rw [hwake, Proc.endingFrom_ask, Thread.handler_eq_instantHandler] at hending
  refine ⟨honly.rest _, Or.inl ?_, hending⟩
  rw [Thread.instantHandler_now]
  exact Thread.now_le_pause? time op

/-- The others are where they were. -/
theorem Member.Apart.others {time : Timeline (κ → τ)} {other : κ × Proc (Timed (Clients κ)) β}
    {member : Member (Clients κ) β} (h : Member.Apart node t time other member) {client : κ}
    (hne : other.1 ≠ client) {op : TimedOp (Clients κ)}
    {resume : op.Reply → Proc (Timed (Clients κ)) β}
    (hcalls : Proc.OnlyCalls client (.ask op resume)) :
    Member.Apart node t (Thread.instantHandler (answerApart node) op time).2 other member := by
  refine ⟨h.only, ?_, ?_⟩
  · rw [Thread.instantHandler_now]
    exact h.punctual
  · rw [h.only.endingFrom_eq (Timeline.alike_instantHandler hne hcalls time member.thread.wake)]
    exact h.ending

/-- While the time passes nobody is late. -/
theorem Member.Apart.pass {time : Timeline (κ → τ)} {task : κ × Proc (Timed (Clients κ)) β}
    {member : Member (Clients κ) β} (h : Member.Apart node t time task member) {instant : Duration}
    (hasleep : time.now.nanos < instant.nanos)
    (hidle : member.Ended time.now ∨ instant.nanos ≤ member.thread.wake.nanos) :
    Member.Apart node t (time.advancedTo instant) task member := by
  refine ⟨h.only, ?_, h.ending⟩
  unfold Timeline.advancedTo
  rw [max_eq_right hasleep.le]
  rcases hidle with ⟨hwake, hdone⟩ | hle
  · exact Or.inr ⟨hwake.trans hasleep.le, hdone⟩
  · exact Or.inl hle

/-- **A step of a group** whose tasks have nothing to do with each other. -/
theorem Step.apart (hnodup : (tasks.map Prod.fst).Nodup)
    (hstep : Step (answerApart node) m next) (h : m.Apart node t tasks) :
    next.Apart node t tasks := by
  obtain ⟨hmembers, hstarted, hdue⟩ := h
  cases hstep with
  | turn before member after time op resume rest_eq awake =>
    obtain ⟨front, task, back, rfl, hfront, hmember, hback⟩ := forall₂_append_cons.1 hmembers
    have honly := hmember.only
    rw [rest_eq] at honly
    rw [List.map_append, List.map_cons, List.nodup_middle, List.nodup_cons] at hnodup
    have hne : ∀ other ∈ front ++ back, other.1 ≠ task.1 := by
      intro other hmem heq
      refine hnodup.1 ?_
      rw [← List.map_append, ← heq]
      exact List.mem_map_of_mem hmem
    have hothers : ∀ {l : List (κ × Proc (Timed (Clients κ)) β)}
        {part : List (Member (Clients κ) β)}, l ⊆ front ++ back →
        List.Forall₂ (Member.Apart node t time) l part →
        List.Forall₂ (Member.Apart node t (Thread.instantHandler (answerApart node) op time).2)
          l part := by
      intro l part hsub hpart
      exact forall₂_imp_of_mem hpart fun other hmem member _ hother =>
        hother.others (hne other (hsub hmem)) honly
    refine ⟨forall₂_append_cons.2 ⟨front, task, back, rfl,
      hothers (List.subset_append_left front back) hfront, hmember.asked rest_eq awake,
      hothers (List.subset_append_right front back) hback⟩, ?_, ?_⟩
    · show _ ≤ (Thread.instantHandler (answerApart node) op time).2.now.nanos
      rw [Thread.instantHandler_now]
      exact hstarted
    · show (Thread.instantHandler (answerApart node) op time).2.now = t.now
        ∨ ∃ later ∈ before ++ _ :: after,
          (Thread.instantHandler (answerApart node) op time).2.now.nanos ≤ later.thread.wake.nanos
      rw [Thread.instantHandler_now]
      refine hdue.imp_right ?_
      rintro ⟨somebody, hmem, hwake⟩
      rcases List.mem_append.1 hmem with hmem | hmem
      · exact ⟨somebody, List.mem_append_left _ hmem, hwake⟩
      rcases List.mem_cons.1 hmem with rfl | hmem
      · exact ⟨_, List.mem_append_right _ List.mem_cons_self, Thread.now_le_pause? time op⟩
      · exact ⟨somebody, List.mem_append_right _ (List.mem_cons_of_mem _ hmem), hwake⟩
  | pass members time sleeper mem asleep idle =>
    refine ⟨?_, hstarted.trans (le_max_left _ _), Or.inr ⟨sleeper, mem, ?_⟩⟩
    · exact forall₂_imp_of_mem hmembers fun task _ member hmem hmember =>
        hmember.pass asleep (idle member hmem)
    · exact max_le asleep.le le_rfl

/-- An interleaving of tasks that have nothing to do with each other. -/
theorem Reaches.apart (hnodup : (tasks.map Prod.fst).Nodup)
    (hreaches : Reaches (answerApart node) m next) (h : m.Apart node t tasks) :
    next.Apart node t tasks := by
  induction hreaches with
  | refl => exact h
  | tail _ hstep ih => exact hstep.apart hnodup ih

/-! ## How they end -/

/-- **Tasks that have nothing to do with each other** have asked what they ask
by themselves and end as they end by themselves. -/
theorem Moment.Apart.ended_eq (h : m.Apart node t tasks)
    (hdone : ∀ member ∈ m.members, ∃ value, member.thread.rest = .done value) :
    m.ended = tasks.map fun task =>
      let ending := task.2.endingFrom (answerApart node) t []
      (ending.journal, ending.value) := by
  have hended : List.Forall₂ (fun task ended =>
      ((task.2.endingFrom (answerApart node) t []).journal,
        (task.2.endingFrom (answerApart node) t []).value) = ended) tasks m.ended := by
    refine Moment.forall₂_ended hdone h.members fun task member value hmember hvalue => ?_
    rw [← hmember.ending, hvalue]
    rfl
  rw [← List.forall₂_map_left_iff, List.forall₂_eq_eq_eq] at hended
  exact hended.symm

/-- **The group ends when the slowest of its tasks does.** -/
theorem Moment.Apart.isGreatest_now (h : m.Apart node t tasks) (hover : m.Over) :
    IsGreatest {n | n = t.now.nanos
        ∨ ∃ task ∈ tasks, n = (task.2.endingFrom (answerApart node) t []).now.nanos}
      m.time.now.nanos := by
  have hwakes : tasks.map (fun task => (task.2.endingFrom (answerApart node) t []).now.nanos)
      = m.members.map fun member => member.thread.wake.nanos := by
    rw [← List.forall₂_eq_eq_eq, List.forall₂_map_left_iff, List.forall₂_map_right_iff]
    refine forall₂_imp_of_mem h.members fun task _ member hmem hmember => ?_
    obtain ⟨value, hdone⟩ := hover.done member hmem
    rw [← hmember.ending, hdone]
    rfl
  constructor
  · refine h.due.imp (congrArg Duration.nanos) ?_
    rintro ⟨member, hmem, hle⟩
    have hwake : member.thread.wake.nanos ∈ tasks.map _ :=
      hwakes ▸ List.mem_map_of_mem hmem
    obtain ⟨task, htask, heq⟩ := List.mem_map.1 hwake
    exact ⟨task, htask, (le_antisymm hle (hover member hmem).1).trans heq.symm⟩
  · rintro n (rfl | ⟨task, htask, rfl⟩)
    · exact h.started
    · obtain ⟨member, hmem, heq⟩ := List.mem_map.1 (hwakes ▸ List.mem_map_of_mem htask)
      rw [← heq]
      exact (hover member hmem).1

end Group

end LedgerNet
