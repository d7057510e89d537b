import LedgerNet.Proofs.Program.Acting

/-!
# Programs that only look

Some programs neither sleep nor change anything: all that they ask is a
question whose answer leaves the world as it is. Such a program has one
value in a given world, whoever runs it. Run by itself it takes no time, and
run as a task it has its value after one turn; so a group of such tasks is
over before the clock moves.
-/

namespace LedgerNet

variable {Q : Interface.{0}} {σ ε δ α β : Type} {answer : Proc.Handler Q σ} {world : σ}

namespace Proc

/-- **A program that only looks has a value** in a given world. -/
inductive Observes (answer : Handler Q σ) (world : σ) : Proc (Timed Q) β → β → Prop where
  | done (value : β) : Observes answer world (.done value) value
  | query {question : Q.Op} {resume : Q.Reply question → Proc (Timed Q) β} {value : β}
    (unchanged : (answer question world).2 = world)
    (rest : Observes answer world (resume (answer question world).1) value) :
    Observes answer world (.ask (.query question) resume) value

namespace Observes

/-- One program that only looks after another. -/
theorem bind {p : Proc (Timed Q) α} {next : α → Proc (Timed Q) β} {value : α} {result : β}
    (h : Observes answer world p value) (hnext : Observes answer world (next value) result) :
    Observes answer world (p >>= next) result := by
  induction h with
  | done value => exact hnext
  | query unchanged rest ih => exact query unchanged (ih hnext)

variable {p : Proc (Timed Q) β} {value : β}

/-- Run by itself, the program takes no time. -/
theorem run_eq {t : Timeline σ} (h : Observes answer t.world p value) :
    p.run (Timeline.handler answer) t = (value, t) := by
  induction h with
  | done value => rfl
  | @query question resume value unchanged rest ih =>
    show (resume (answer question t.world).1).run (Timeline.handler answer)
      { t with world := (answer question t.world).2 } = (value, t)
    rw [unchanged]
    exact ih

/-- Run as a task, the program ends in one turn. -/
theorem turn_eq {t : Timeline σ} (h : Observes answer t.world p value) :
    Thread.turn answer p t = (⟨t.now, .done value⟩, t) := by
  induction h with
  | done value => rfl
  | @query question resume value unchanged rest ih =>
    show Thread.turn answer (resume (answer question t.world).1)
      { t with world := (answer question t.world).2 } = (⟨t.now, .done value⟩, t)
    rw [unchanged]
    exact ih

end Observes

end Proc

namespace Attempt

/-- **A program that may fail only looks**, and has an outcome. -/
def Observes (answer : Proc.Handler Q σ) (world : σ) (p : Attempt (Timed Q) ε α)
    (outcome : Outcome ε α) : Prop :=
  Proc.Observes answer world (ExceptT.run p) outcome

variable {p : Attempt (Timed Q) ε α} {next : α → Attempt (Timed Q) ε β} {value : α}

theorem observes_pure : (pure value : Attempt (Timed Q) ε α).Observes answer world (.ok value) :=
  .done _

theorem Observes.bind {outcome : Outcome ε β} (h : p.Observes answer world (.ok value))
    (hnext : (next value).Observes answer world outcome) :
    (p >>= next).Observes answer world outcome := by
  unfold Observes
  rw [ExceptT.run_bind]
  exact Proc.Observes.bind h hnext

theorem Observes.outcome {outcome : Outcome ε α} (h : p.Observes answer world outcome) :
    (p.outcome : Attempt (Timed Q) δ _).Observes answer world (.ok outcome) :=
  Proc.Observes.bind h (.done _)

/-- Run by itself, the program takes no time. -/
theorem Observes.runOn_eq {outcome : Outcome ε α} {t : Timeline σ}
    (h : p.Observes answer t.world outcome) :
    p.runOn (Timeline.handler answer) t = (outcome, t) :=
  h.run_eq

theorem observes_callNode {κ : Type} {answer : Proc.Handler (Clients κ) σ} {client : κ}
    {call : Call} {reply : Outcome ApiError call.Result}
    (h : answer (client, call) world = (reply, world)) :
    (callNode client call).Observes answer world reply := by
  have hreply : (answer (client, call) world).1 = reply := by rw [h]
  refine .query (by rw [h]) ?_
  rw [hreply]
  exact .done reply

end Attempt

/-! ## Groups -/

namespace Group

/-- If it is nobody's turn, all tasks have ended. -/
theorem pick?_eq_none {threads : List (Thread Q β)} (h : pick? threads = none) :
    ∀ thread ∈ threads, ∃ value, thread.rest = .done value := by
  induction threads with
  | nil => exact fun thread hmem => absurd hmem List.not_mem_nil
  | cons thread rest ih =>
    unfold pick? at h
    split at h
    · rename_i value hvalue hrest
      refine List.forall_mem_cons.2 ⟨?_, ih hrest⟩
      unfold Thread.value? at hvalue
      split at hvalue
      · rename_i value' hdone
        exact ⟨value', hdone⟩
      · exact absurd hvalue (by simp)
    · exact absurd h (by simp)
    · exact absurd h (by simp)
    · split at h <;> exact absurd h (by simp)

/-- What tasks ended with that all have the same value. -/
theorem filterMap_value? {threads : List (Thread Q β)} {value : β}
    (h : ∀ thread ∈ threads, thread.value? = some value) :
    threads.filterMap Thread.value? = List.replicate threads.length value := by
  induction threads with
  | nil => rfl
  | cons thread rest ih =>
    obtain ⟨hthread, hrest⟩ := List.forall_mem_cons.1 h
    rw [List.filterMap_cons, hthread, ih hrest]
    rfl

/-- **A group of tasks that only look** is over at once, if all have the same
value. -/
theorem run_of_observes {threads : List (Thread Q β)} {t : Timeline σ} {value : β}
    (h : ∀ thread ∈ threads, thread.wake = t.now ∧ Proc.Observes answer t.world thread.rest value) :
    run answer threads t = (List.replicate threads.length value, t) := by
  -- the induction follows the turns, and whoever took one has ended where it looked
  induction threads, t using run.induct answer with
  | case1 threads t hpick =>
    rw [run, hpick]
    refine Prod.ext ?_ rfl
    have hended : ∀ thread ∈ threads, thread.value? = some value := by
      intro thread hmem
      obtain ⟨ended, hdone⟩ := pick?_eq_none hpick thread hmem
      have hobserves := (h thread hmem).2
      rw [hdone] at hobserves
      cases hobserves
      unfold Thread.value?
      rw [hdone]
    exact filterMap_value? hended
  | case2 threads t pick hpick taken ih =>
    obtain ⟨hthreads, -⟩ := pick?_eq_some hpick
    obtain ⟨hwake, hobserves⟩ := h pick.next (by simp [hthreads])
    have hadvanced : t.advancedTo pick.next.wake = t := by
      rw [hwake, Timeline.advancedTo, Nat.max_self]
    have htaken : taken = (⟨t.now, .done value⟩, t) := by
      show Thread.turn answer pick.next.rest (t.advancedTo pick.next.wake) = _
      rw [hadvanced, hobserves.turn_eq]
    rw [run, hpick]
    show run answer (pick.before ++ taken.1 :: pick.after) taken.2 = _
    rw [htaken] at ih ⊢
    refine (ih fun thread hmem => ?_).trans ?_
    · -- the task that took its turn has ended, the others are as they were
      rcases List.mem_append.1 hmem with hmem | hmem
      · exact h thread (by simp [hthreads, hmem])
      rcases List.mem_cons.1 hmem with rfl | hmem
      · exact ⟨rfl, .done value⟩
      · exact h thread (by simp [hthreads, hmem])
    · rw [hthreads]
      simp

end Group

/-- **Tasks that only look are run together in no time**, if all have the same
outcome. -/
theorem Concurrent.runOn_together_of_observes {tasks : List (Attempt (Timed Q) δ β)}
    {t : Timeline σ} {outcome : Outcome δ β}
    (h : ∀ task ∈ tasks, task.Observes answer t.world outcome) :
    (Concurrent.together tasks : Attempt (Concurrent Q) ε _).runOn (Concurrent.handler answer) t
      = (.ok (List.replicate tasks.length outcome), t) := by
  have hthreads : ∀ thread ∈ Group.start (tasks.map ExceptT.run) t,
      thread.wake = t.now ∧ Proc.Observes answer t.world thread.rest outcome := by
    intro thread hmem
    obtain ⟨program, hprogram, rfl⟩ := List.mem_map.1 hmem
    obtain ⟨task, htask, rfl⟩ := List.mem_map.1 hprogram
    exact ⟨rfl, h task htask⟩
  rw [Concurrent.runOn_together, Group.run_of_observes hthreads]
  simp [Group.start]

end LedgerNet
