import LedgerNet.Program.Network
import LedgerNet.Proofs.Program.Journal
import LedgerNet.Proofs.Program.Looking
import Mathlib.Data.List.Forall2
import Mathlib.Data.Set.Finite.Lemmas
import Mathlib.Logic.Relation

/-!
# Interleavings

Which of several tasks makes the next request is for a scheduler to say, and
no program may rely on it. This module lets it be anybody. At a moment of a
group, any task that is awake may go on by one request; where all that have
not ended are asleep, the time passes until the first of them wakes. An
interleaving is any sequence of such steps, and the group is over when every
task has ended, which a task that goes to sleep as the last thing it does has
done when it wakes, and no sooner.

Every interleaving comes to an end (`Group.Step.wellFounded`), and none is
stuck before the group is over (`Group.Moment.exists_over`). Each task keeps a
journal, and when the group is over the journal of a task is one of its
program, whatever the others did in between (`Group.Reaches.journals`). The
scheduler of the library runs a group along one of its interleavings
(`Group.reaches_run`).

Where groups may be interleaved at will, a program has not one run but many.
They are `Proc.Runs`, for answers that are a relation and not a function.
-/

namespace LedgerNet

universe u

variable {Q : Interface.{0}} {κ σ τ ε α β γ : Type}

/-! ## Lists that are related -/

/-- What is related to a list with something in the middle has something in
the middle. -/
theorem forall₂_append_cons {R : α → β → Prop} {l : List α} {before after : List β} {b : β} :
    List.Forall₂ R l (before ++ b :: after)
      ↔ ∃ front a back, l = front ++ a :: back ∧ List.Forall₂ R front before ∧ R a b
        ∧ List.Forall₂ R back after := by
  constructor
  · intro h
    have hfront := List.forall₂_take before.length h
    have hback := List.forall₂_drop before.length h
    rw [List.take_left] at hfront
    rw [List.drop_left] at hback
    obtain ⟨a, back, hab, hafter, hdrop⟩ := List.forall₂_cons_right_iff.1 hback
    refine ⟨l.take before.length, a, back, ?_, hfront, hab, hafter⟩
    rw [← hdrop, List.take_append_drop]
  · rintro ⟨front, a, back, rfl, hfront, hab, hback⟩
    exact List.rel_append hfront (.cons hab hback)

/-- Lists that are related are related in another way, if their members
are. -/
theorem forall₂_imp_of_mem {R S : α → β → Prop} {l : List α} {u : List β}
    (h : List.Forall₂ R l u) (himp : ∀ a ∈ l, ∀ b ∈ u, R a b → S a b) : List.Forall₂ S l u := by
  obtain ⟨hlength, hzip⟩ := List.forall₂_iff_zip.1 h
  refine List.forall₂_iff_zip.2 ⟨hlength, fun hmem => ?_⟩
  obtain ⟨ha, hb⟩ := List.of_mem_zip hmem
  exact himp _ ha _ hb (hzip hmem)

/-- No time passes in a turn. -/
theorem Thread.instantHandler_now (answer : Proc.Handler Q σ) (op : TimedOp Q) (t : Timeline σ) :
    (instantHandler answer op t).2.now = t.now := by
  cases op <;> rfl

namespace Group

/-! ## Moments and steps -/

/-- **A member of a group**: its task as it stands, with the journal of what
the task has asked so far. -/
structure Member (Q : Interface.{0}) (β : Type) where
  thread : Thread Q β
  journal : List (Proc.Entry (Timed Q))

namespace Member

/-- A task of which nothing has happened yet. -/
def fresh (thread : Thread Q β) : Member Q β := ⟨thread, []⟩

/-- **The task has ended.** One that goes to sleep in the end has not ended
before it wakes. -/
def Ended (member : Member Q β) (now : Duration) : Prop :=
  member.thread.wake.nanos ≤ now.nanos ∧ ∃ value, member.thread.rest = .done value

/-- The member after a request, which it makes now. -/
def asked (answer : Proc.Handler Q σ) (member : Member Q β) (op : TimedOp Q)
    (resume : op.Reply → Proc (Timed Q) β) (t : Timeline σ) : Member Q β where
  thread := ⟨(Thread.pause? t op).getD t.now, resume (Thread.instantHandler answer op t).1⟩
  journal := member.journal ++ [⟨op, (Thread.instantHandler answer op t).1⟩]

end Member

/-- **A group at some moment.** -/
structure Moment (Q : Interface.{0}) (β σ : Type) where
  members : List (Member Q β)
  time : Timeline σ

namespace Moment

/-- The moment at which some programs start. -/
def start (programs : List (Proc (Timed Q) β)) (t : Timeline σ) : Moment Q β σ :=
  ⟨(Group.start programs t).map Member.fresh, t⟩

/-- **The group is over**: all of its tasks have ended. -/
def Over (m : Moment Q β σ) : Prop := ∀ member ∈ m.members, member.Ended m.time.now

/-- What the tasks have asked and what they have ended with, those that
have. -/
def ended (m : Moment Q β σ) : List (List (Proc.Entry (Timed Q)) × β) :=
  m.members.filterMap fun member => member.thread.value?.map fun value => (member.journal, value)

end Moment

/-- **A step of a group**: somebody who is awake makes a request, or nobody
can and the time passes. -/
inductive Step (answer : Proc.Handler Q σ) : Moment Q β σ → Moment Q β σ → Prop where
  | turn (before : List (Member Q β)) (member : Member Q β) (after : List (Member Q β))
    (time : Timeline σ) (op : TimedOp Q) (resume : op.Reply → Proc (Timed Q) β)
    (rest_eq : member.thread.rest = .ask op resume)
    (awake : member.thread.wake.nanos ≤ time.now.nanos) :
    Step answer ⟨before ++ member :: after, time⟩
      ⟨before ++ member.asked answer op resume time :: after,
        (Thread.instantHandler answer op time).2⟩
  | pass (members : List (Member Q β)) (time : Timeline σ) (sleeper : Member Q β)
    (mem : sleeper ∈ members) (asleep : time.now.nanos < sleeper.thread.wake.nanos)
    (idle : ∀ member ∈ members,
      member.Ended time.now ∨ sleeper.thread.wake.nanos ≤ member.thread.wake.nanos) :
    Step answer ⟨members, time⟩ ⟨members, time.advancedTo sleeper.thread.wake⟩

/-- **An interleaving** leads from one moment to another. -/
abbrev Reaches (answer : Proc.Handler Q σ) : Moment Q β σ → Moment Q β σ → Prop :=
  Relation.ReflTransGen (Step answer)

variable {answer : Proc.Handler Q σ} {m next : Moment Q β σ}

/-! ## Every interleaving ends, and ends well -/

/-- Those who are asleep. -/
def Moment.asleep (m : Moment Q β σ) : Nat :=
  m.members.countP fun member => decide (m.time.now.nanos < member.thread.wake.nanos)

/-- When the time passes somebody wakes and nobody falls asleep. -/
theorem asleep_pass {members : List (Member Q β)} {time : Timeline σ} {sleeper : Member Q β}
    (hmem : sleeper ∈ members) (hasleep : time.now.nanos < sleeper.thread.wake.nanos) :
    Moment.asleep ⟨members, time.advancedTo sleeper.thread.wake⟩
      < Moment.asleep ⟨members, time⟩ := by
  have hmono : ∀ part : List (Member Q β),
      Moment.asleep ⟨part, time.advancedTo sleeper.thread.wake⟩ ≤ Moment.asleep ⟨part, time⟩ := by
    intro part
    refine List.countP_mono_left fun member _ h => ?_
    rw [decide_eq_true_eq] at h ⊢
    exact lt_of_le_of_lt (le_max_left _ _) h
  obtain ⟨before, after, rfl⟩ := List.append_of_mem hmem
  have hwoken : ¬ max time.now.nanos sleeper.thread.wake.nanos < sleeper.thread.wake.nanos :=
    not_lt.2 (le_max_right _ _)
  unfold Moment.asleep at hmono ⊢
  rw [List.countP_append, List.countP_append, List.countP_cons, List.countP_cons,
    if_pos (decide_eq_true hasleep), if_neg (by rw [decide_eq_true_eq]; exact hwoken)]
  exact Nat.add_lt_add_of_le_of_lt (hmono before) (Nat.lt_succ_of_le (hmono after))

/-- **No interleaving goes on forever**: a request takes its task to a program
inside the one it was at, and in between the time passes no more often than
there are tasks asleep. -/
theorem Step.wellFounded (answer : Proc.Handler Q σ) :
    WellFounded fun next m : Moment Q β σ => Step answer m next := by
  let size (m : Moment Q β σ) : List (Proc (Timed Q) β) × Nat :=
    (m.members.map fun member => member.thread.rest, m.asleep)
  refine Subrelation.wf ?_ (InvImage.wf size
    (Prod.lex ⟨Shrinks, Shrinks.wellFounded⟩ Nat.lt_wfRel).wf)
  intro next m hstep
  cases hstep with
  | turn before member after time op resume rest_eq awake =>
    refine Prod.Lex.left _ _ ?_
    show Shrinks _ _
    rw [List.map_append, List.map_append, List.map_cons, List.map_cons, rest_eq]
    exact Shrinks.turn _ _ (Proc.Within.here (I := Timed Q) op resume
      (Thread.instantHandler answer op time).1)
  | pass members time sleeper mem asleep idle =>
    exact Prod.Lex.right _ (asleep_pass mem asleep)

/-- **Nobody waits for nothing**: before the group is over there is a step to
take. -/
theorem Moment.exists_step (answer : Proc.Handler Q σ) {m : Moment Q β σ} (h : ¬ m.Over) :
    ∃ next, Step answer m next := by
  obtain ⟨members, time⟩ := m
  by_cases hawake : ∃ member ∈ members, member.thread.wake.nanos ≤ time.now.nanos
      ∧ ∃ op resume, member.thread.rest = .ask op resume
  · obtain ⟨member, hmem, hwake, op, resume, hrest⟩ := hawake
    obtain ⟨before, after, rfl⟩ := List.append_of_mem hmem
    exact ⟨_, .turn before member after time op resume hrest hwake⟩
  -- whoever is awake has ended, so that somebody is asleep, and one of them wakes first
  have hended : ∀ member ∈ members, member.thread.wake.nanos ≤ time.now.nanos →
      member.Ended time.now := by
    intro member hmem hwake
    cases hrest : member.thread.rest with
    | done value => exact ⟨hwake, value, hrest⟩
    | ask op resume => exact absurd ⟨member, hmem, hwake, op, resume, hrest⟩ hawake
  obtain ⟨somebody, hsomebody, hnot⟩ : ∃ member ∈ members, ¬ member.Ended time.now := by
    by_contra hall
    exact h fun member hmem => by_contra fun hnot => hall ⟨member, hmem, hnot⟩
  have hasleep : time.now.nanos < somebody.thread.wake.nanos :=
    not_le.1 fun hwake => hnot (hended somebody hsomebody hwake)
  obtain ⟨sleeper, ⟨hmem, hsleeps⟩, hfirst⟩ := Set.exists_min_image
    {member | member ∈ members ∧ time.now.nanos < member.thread.wake.nanos}
    (fun member => member.thread.wake.nanos)
    ((List.finite_toSet members).subset fun _ hmember => hmember.1) ⟨somebody, hsomebody, hasleep⟩
  refine ⟨_, .pass members time sleeper hmem hsleeps fun member hmember => ?_⟩
  by_cases hwake : member.thread.wake.nanos ≤ time.now.nanos
  · exact Or.inl (hended member hmember hwake)
  · exact Or.inr (hfirst member ⟨hmember, not_le.1 hwake⟩)

/-- **Every interleaving can be carried on** until the group is over. -/
theorem Moment.exists_over (answer : Proc.Handler Q σ) (m : Moment Q β σ) :
    ∃ last, Reaches answer m last ∧ last.Over := by
  induction m using (Step.wellFounded answer).induction with
  | _ m ih =>
    by_cases hover : m.Over
    · exact ⟨m, .refl, hover⟩
    · obtain ⟨next, hstep⟩ := m.exists_step answer hover
      obtain ⟨last, hreaches, hlast⟩ := ih next hstep
      exact ⟨last, .head hstep hreaches, hlast⟩

/-! ## What each task does -/

/-- The task is where its journal has led its program. -/
def Member.Continues (program : Proc (Timed Q) β) (member : Member Q β) : Prop :=
  ∀ rest value, member.thread.rest.Journals rest value →
    program.Journals (member.journal ++ rest) value

theorem continues_start (programs : List (Proc (Timed Q) β)) (t : Timeline σ) :
    List.Forall₂ Member.Continues programs (Moment.start programs t).members := by
  unfold Moment.start Group.start
  rw [List.map_map, List.forall₂_map_right_iff]
  exact List.forall₂_same.2 fun program _ rest value h => h

/-- A step takes a task on along its program, or leaves it where it is. -/
theorem Step.continues {programs : List (Proc (Timed Q) β)} (hstep : Step answer m next)
    (h : List.Forall₂ Member.Continues programs m.members) :
    List.Forall₂ Member.Continues programs next.members := by
  cases hstep with
  | turn before member after time op resume rest_eq awake =>
    obtain ⟨front, program, back, rfl, hfront, hmember, hback⟩ := forall₂_append_cons.1 h
    refine forall₂_append_cons.2 ⟨front, program, back, rfl, hfront, ?_, hback⟩
    intro rest value hrest
    unfold Member.asked
    rw [← List.append_cons]
    refine hmember _ _ ?_
    rw [rest_eq]
    exact ⟨_, rest, rfl, hrest⟩
  | pass members time sleeper mem asleep idle => exact h

theorem Reaches.continues {programs : List (Proc (Timed Q) β)} (hreaches : Reaches answer m next)
    (h : List.Forall₂ Member.Continues programs m.members) :
    List.Forall₂ Member.Continues programs next.members := by
  induction hreaches with
  | refl => exact h
  | tail _ hstep ih => exact hstep.continues ih

/-- Whoever has ended has nothing left to ask. -/
theorem Moment.Over.done {m : Moment Q β σ} (h : m.Over) :
    ∀ member ∈ m.members, ∃ value, member.thread.rest = .done value :=
  fun member hmem => (h member hmem).2

/-- When nobody has anything left to ask, what is known of each task is known
of what it has ended with. -/
theorem Moment.forall₂_ended {m : Moment Q β σ} {l : List α} {R : α → Member Q β → Prop}
    {S : α → List (Proc.Entry (Timed Q)) × β → Prop}
    (hdone : ∀ member ∈ m.members, ∃ value, member.thread.rest = .done value)
    (h : List.Forall₂ R l m.members)
    (hvalue : ∀ a member value, R a member → member.thread.rest = .done value →
      S a (member.journal, value)) :
    List.Forall₂ S l m.ended := by
  obtain ⟨members, time⟩ := m
  replace hdone : ∀ member ∈ members, ∃ value, member.thread.rest = .done value := hdone
  replace h : List.Forall₂ R l members := h
  unfold Moment.ended
  induction h with
  | nil => exact .nil
  | @cons a member l members hmember hrest ih =>
    obtain ⟨⟨value, hended⟩, hothers⟩ := List.forall_mem_cons.1 hdone
    have hsome : member.thread.value? = some value := by
      unfold Thread.value?
      rw [hended]
    rw [List.filterMap_cons, hsome]
    exact .cons (hvalue a member value hmember hended) (ih hothers)

/-- **When a group is over**, each of its tasks has a journal of its own
program and has ended as that journal does. -/
theorem Reaches.journals {programs : List (Proc (Timed Q) β)} {t : Timeline σ}
    {last : Moment Q β σ} (hreaches : Reaches answer (Moment.start programs t) last)
    (hover : last.Over) :
    List.Forall₂ (fun program ended => program.Journals ended.1 ended.2) programs last.ended := by
  refine Moment.forall₂_ended hover.done (hreaches.continues (continues_start programs t)) ?_
  intro program member value hmember hdone
  rw [← List.append_nil member.journal]
  refine hmember [] value ?_
  rw [hdone]
  exact ⟨rfl, rfl⟩

end Group

/-! ## The scheduler of the library -/

/-- A task that has not ended is about to ask. -/
theorem Thread.exists_ask {thread : Thread Q β} (h : thread.value? = none) :
    ∃ op resume, thread.rest = .ask op resume := by
  unfold Thread.value? at h
  split at h
  · cases h
  · rename_i op resume hrest
    exact ⟨op, resume, hrest⟩

/-- A task that has a value has ended with it. -/
theorem Thread.rest_of_value? {thread : Thread Q β} {value : β}
    (h : thread.value? = some value) : thread.rest = .done value := by
  unfold Thread.value? at h
  split at h
  · rename_i ended hrest
    rw [hrest, Option.some.inj h]
  · cases h

namespace Group

/-- Whose turn it is wakes no later than anybody who has not ended. -/
theorem pick?_least {threads : List (Thread Q β)} {pick : Pick Q β}
    (h : pick? threads = some pick) :
    ∀ thread ∈ threads, thread.value? = none → pick.next.wake.nanos ≤ thread.wake.nanos := by
  induction threads generalizing pick with
  | nil => exact fun thread hmem => absurd hmem List.not_mem_nil
  | cons thread rest ih =>
    unfold pick? at h
    split at h
    · exact absurd h (by simp)
    · rename_i value later hvalue hlater
      obtain rfl := Option.some.inj h
      refine List.forall_mem_cons.2 ⟨fun hnone => ?_, @ih later hlater⟩
      rw [hvalue] at hnone
      cases hnone
    · rename_i hvalue hlater
      obtain rfl := Option.some.inj h
      refine List.forall_mem_cons.2 ⟨fun _ => le_rfl, fun other hmem hnone => ?_⟩
      obtain ⟨value, hdone⟩ := pick?_eq_none hlater other hmem
      unfold Thread.value? at hnone
      rw [hdone] at hnone
      cases hnone
    · rename_i later hvalue hlater
      have hleast := @ih later hlater
      split at h
      · rename_i hle
        obtain rfl := Option.some.inj h
        exact List.forall_mem_cons.2 ⟨fun _ => le_rfl,
          fun other hmem hnone => hle.trans (hleast other hmem hnone)⟩
      · rename_i hlt
        obtain rfl := Option.some.inj h
        exact List.forall_mem_cons.2 ⟨fun _ => (not_le.1 hlt).le, hleast⟩

/-- **A turn is a sequence of steps.** The induction follows the requests up to
the one that makes the task sleep. -/
theorem reaches_turn (answer : Proc.Handler Q σ) (before after : List (Member Q β))
    (p : Proc (Timed Q) β) {wake : Duration} (journal : List (Proc.Entry (Timed Q)))
    (time : Timeline σ) (hwake : wake.nanos ≤ time.now.nanos)
    (hended : ∀ value, p = .done value → wake = time.now) :
    ∃ later, Reaches answer ⟨before ++ ⟨⟨wake, p⟩, journal⟩ :: after, time⟩
      ⟨before ++ ⟨(Thread.turn answer p time).1, later⟩ :: after,
        (Thread.turn answer p time).2⟩ := by
  induction p generalizing wake journal time with
  | done value =>
    rw [hended value rfl]
    exact ⟨journal, .refl⟩
  | ask op resume ih =>
    have hstep : Step answer _ _ := Step.turn before ⟨⟨wake, .ask op resume⟩, journal⟩ after time
      op resume rfl hwake
    unfold Member.asked at hstep
    unfold Thread.turn
    dsimp only
    cases hpause : Thread.pause? time op with
    | some rested =>
      rw [hpause] at hstep
      exact ⟨_, .single hstep⟩
    | none =>
      rw [hpause] at hstep
      have hnow := Thread.instantHandler_now answer op time
      obtain ⟨later, hlater⟩ := ih _ _ (Thread.instantHandler answer op time).2
        (le_of_eq (congrArg Duration.nanos hnow.symm)) fun _ _ => hnow.symm
      exact ⟨later, .head hstep hlater⟩

/-- **The time passes** until the first of those wakes who have not ended; those
who sleep in the end may wake in between. -/
theorem reaches_advanced (answer : Proc.Handler Q σ) {members : List (Member Q β)}
    (time : Timeline σ) {first : Member Q β} (hmem : first ∈ members)
    (hidle : ∀ member ∈ members, (∃ value, member.thread.rest = .done value)
      ∨ first.thread.wake.nanos ≤ member.thread.wake.nanos) :
    Reaches answer ⟨members, time⟩ ⟨members, time.advancedTo first.thread.wake⟩ := by
  generalize hasleep : Moment.asleep ⟨members, time⟩ = n
  induction n using Nat.strong_induction_on generalizing time with
  | _ n ih =>
    by_cases hwake : first.thread.wake.nanos ≤ time.now.nanos
    · unfold Timeline.advancedTo
      rw [max_eq_left hwake]
    obtain ⟨sleeper, ⟨hsleeper, hsleeps⟩, hleast⟩ := Set.exists_min_image
      {member | member ∈ members ∧ time.now.nanos < member.thread.wake.nanos}
      (fun member => member.thread.wake.nanos)
      ((List.finite_toSet members).subset fun _ hmember => hmember.1)
      ⟨first, hmem, not_le.1 hwake⟩
    have hle : sleeper.thread.wake.nanos ≤ first.thread.wake.nanos :=
      hleast first ⟨hmem, not_le.1 hwake⟩
    have hstep : Step answer ⟨members, time⟩ _ :=
      .pass members time sleeper hsleeper hsleeps fun member hmember => by
        by_cases hawake : member.thread.wake.nanos ≤ time.now.nanos
        · refine (hidle member hmember).imp (fun hdone => ⟨hawake, hdone⟩) fun hfirst => ?_
          exact hle.trans hfirst
        · exact Or.inr (hleast member ⟨hmember, not_le.1 hawake⟩)
    have hrest := ih _ (hasleep ▸ asleep_pass hsleeper hsleeps)
      (time.advancedTo sleeper.thread.wake) rfl
    unfold Timeline.advancedTo at hrest hstep ⊢
    dsimp only at hrest
    rw [max_assoc, max_eq_right hle] at hrest
    exact .head hstep hrest

/-- **The scheduler of the library follows an interleaving**: it leads to a
moment at which nobody has anything left to ask, and the tasks have ended with
what the scheduler says. The induction follows the turns. -/
theorem reaches_run (answer : Proc.Handler Q σ) (members : List (Member Q β)) (t : Timeline σ) :
    ∃ last, Reaches answer ⟨members, t⟩ last
      ∧ last.time = (run answer (members.map Member.thread) t).2
      ∧ last.ended.map Prod.snd = (run answer (members.map Member.thread) t).1
      ∧ ∀ member ∈ last.members, ∃ value, member.thread.rest = .done value := by
  generalize hthreads : members.map Member.thread = threads
  induction threads, t using run.induct answer generalizing members with
  | case1 threads t hpick =>
    subst hthreads
    rw [run, hpick]
    refine ⟨⟨members, t⟩, .refl, rfl, ?_, fun member hmem => ?_⟩
    · unfold Moment.ended
      rw [List.map_filterMap, List.filterMap_map]
      refine List.filterMap_congr fun member _ => ?_
      show Option.map _ (Option.map _ _) = _
      rw [Option.map_map]
      exact Option.map_id'
    · exact pick?_eq_none hpick _ (List.mem_map_of_mem hmem)
  | case2 threads t pick hpick taken ih =>
    obtain ⟨hsplit, hlive⟩ := pick?_eq_some hpick
    obtain ⟨before, rest, rfl, hbefore, hrest⟩ := List.map_eq_append_iff.1 (hthreads.trans hsplit)
    obtain ⟨⟨thread, journal⟩, after, rfl, hmember, hafter⟩ := List.map_eq_cons_iff.1 hrest
    obtain rfl : thread = pick.next := hmember
    have hadvanced := reaches_advanced answer t
      (List.mem_append_right before List.mem_cons_self) fun other hother => by
        cases hvalue : other.thread.value? with
        | none => exact Or.inr (pick?_least hpick _ (hthreads ▸ List.mem_map_of_mem hother) hvalue)
        | some value => exact Or.inl ⟨value, Thread.rest_of_value? hvalue⟩
    obtain ⟨op, resume, hask⟩ := Thread.exists_ask hlive
    obtain ⟨later, htaken⟩ := reaches_turn answer before after pick.next.rest journal
      (t.advancedTo pick.next.wake) (le_max_right _ _) fun value hdone => by
        rw [hask] at hdone
        cases hdone
    have hmembers : (before ++ ⟨taken.1, later⟩ :: after).map Member.thread
        = pick.before ++ taken.1 :: pick.after := by
      rw [List.map_append, List.map_cons, hbefore, hafter]
    obtain ⟨last, hreaches, htime, hvalues, hdone⟩ := ih _ hmembers
    rw [run, hpick]
    exact ⟨last, hadvanced.trans (htaken.trans hreaches), htime, hvalues, hdone⟩

/-- When nobody has anything left to ask, there is nothing left but time. -/
theorem Reaches.members_eq {last : Moment Q β σ} (h : Reaches answer m last)
    (hdone : ∀ member ∈ m.members, ∃ value, member.thread.rest = .done value) :
    last.members = m.members := by
  induction h with
  | refl => rfl
  | tail _ hstep ih =>
    cases hstep with
    | turn before member after time op resume rest_eq awake =>
      obtain ⟨value, hvalue⟩ := hdone member (ih ▸ List.mem_append_right _ List.mem_cons_self)
      rw [rest_eq] at hvalue
      cases hvalue
    | pass members time sleeper mem asleep idle => exact ih

/-- A group that it runs from the start ends as in an interleaving that has come
to its end. -/
theorem reaches_run_start (answer : Proc.Handler Q σ) (programs : List (Proc (Timed Q) β))
    (t : Timeline σ) :
    ∃ last, Reaches answer (Moment.start programs t) last ∧ last.Over
      ∧ last.ended.map Prod.snd = (run answer (start programs t) t).1 := by
  obtain ⟨done, hreaches, -, hvalues, hdone⟩ :=
    reaches_run answer (Moment.start programs t).members t
  have hthreads : (Moment.start programs t).members.map Member.thread = start programs t := by
    unfold Moment.start
    rw [List.map_map]
    exact List.map_id' _
  rw [hthreads] at hvalues
  obtain ⟨last, hlater, hover⟩ := done.exists_over answer
  have hended : last.ended = done.ended := by
    unfold Moment.ended
    rw [hlater.members_eq hdone]
  exact ⟨last, hreaches.trans hlater, hover, hended ▸ hvalues⟩

end Group

end LedgerNet
