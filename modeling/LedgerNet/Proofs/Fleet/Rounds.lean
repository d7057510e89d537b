import LedgerNet.Proofs.Program.Journal
import LedgerNet.Readiness
import Mathlib.Data.ENat.Basic
import Mathlib.Data.Stream.Init

/-!
# How many rounds a wait takes

A node is asked about its lanes in rounds, and a round ends at the first
question that is not answered with yes. So every round but a last one that
finds the node ready takes one refusal away from those that the node has in
store, and none takes two. This is the whole law of a wait
(`Asked.refused`): if the node refuses `n` times altogether before it has said
yes on every lane, it is found ready in round `n + 1`, if the budget allows
for that many.

The refusals of a lane are counted up to its first yes, and what the node
would say later does not matter: a lane that has said yes is not asked again,
neither in the same wait nor by anybody who goes on with what it has learned
(`Heard.once`).
-/

namespace LedgerNet

variable {κ ε : Type}

/-! ## Pauses in a journal -/

namespace Proc

/-- Whether a program in time paused. -/
def Entry.isPause {Q : Interface.{0}} : Entry (Timed Q) → Bool
  | ⟨.sleep _, _⟩ => true
  | _ => false

end Proc

namespace Timeline

/-- **When a program wakes up** that goes to sleep now, on a clock that rounds
the points at which sleeps end. -/
def wokenAt (clock : Duration → Duration) (d now : Duration) : Duration :=
  ⟨max now.nanos (clock ⟨now.nanos + d.nanos⟩).nanos⟩

end Timeline

/-! ## What a node has in store -/

open Classical in
/-- **How often an answer is not a yes** before it is for the first time;
forever, if it never is. -/
noncomputable def refusals (answers : Stream' (Except ApiError Bool)) : ℕ∞ :=
  if h : ∃ index, answers.get index = .ok true then (Nat.find h : ℕ∞) else ⊤

section Refusals

variable {answers : Stream' (Except ApiError Bool)}

/-- Who says yes at once has no refusal in store. -/
theorem refusals_of_yes (h : answers.head = .ok true) : refusals answers = 0 := by
  have hyes : ∃ index, answers.get index = .ok true := ⟨0, h⟩
  unfold refusals
  rw [dif_pos hyes, (Nat.find_eq_zero hyes).2 h, Nat.cast_zero]

/-- **An answer that is not a yes is one refusal**, and the others are in store
for later. -/
theorem refusals_of_no (h : answers.head ≠ .ok true) :
    refusals answers = refusals answers.tail + 1 := by
  unfold refusals
  by_cases hlater : ∃ index, answers.tail.get index = .ok true
  · have hyes : ∃ index, answers.get index = .ok true := hlater.imp' Nat.succ fun _ => id
    rw [dif_pos hyes, dif_pos hlater, Nat.find_comp_succ hyes hlater h, Nat.cast_succ]
    rfl
  · have hnever : ¬ ∃ index, answers.get index = .ok true := by
      rintro ⟨_ | index, hindex⟩
      · exact h hindex
      · exact hlater ⟨index, hindex⟩
    rw [dif_neg hnever, dif_neg hlater, top_add]

end Refusals

/-- **What a node will say of each of its lanes**, one answer after the
other. -/
abbrev Foretold := Lane → Stream' (Except ApiError Bool)

namespace Foretold

/-- **A node that says what is foretold**, and answers nothing else. -/
def answer : Proc.Handler (Clients κ) Foretold
  | (_, .isBootstrapped lane), foretold =>
    ((foretold lane).head.mapError .error,
      Function.update foretold lane (foretold lane).tail)
  | (_, call), foretold => (Outcome.failed (.unsupported call.method), foretold)

/-- **How often a node does not say yes** on some lanes. -/
noncomputable def outstanding (foretold : Foretold) (lanes : List Lane) : ℕ∞ :=
  (lanes.map fun lane => refusals (foretold lane)).sum

theorem outstanding_cons (foretold : Foretold) (lane : Lane) (lanes : List Lane) :
    foretold.outstanding (lane :: lanes)
      = refusals (foretold lane) + foretold.outstanding lanes :=
  List.sum_cons

/-- What is said of a lane takes nothing away from others. -/
theorem outstanding_update {foretold : Foretold} {lane : Lane} {lanes : List Lane}
    (h : lane ∉ lanes) (answers : Stream' (Except ApiError Bool)) :
    Foretold.outstanding (Function.update foretold lane answers) lanes
      = foretold.outstanding lanes := by
  unfold outstanding
  refine congrArg List.sum (List.map_congr_left fun other hother => ?_)
  have hne : other ≠ lane := fun heq => h (heq ▸ hother)
  rw [Function.update_of_ne hne]

end Foretold

/-! ## What is said -/

/-- **What a node says of a lane** when it is asked. -/
abbrev Saying := Lane × Except ApiError Bool

namespace Saying

/-- The error that was said, if it is one. -/
def error? : Saying → Option ApiError
  | (_, .error cause) => some cause
  | (_, .ok _) => none

/-- A saying in a journal. -/
def entry (client : κ) (saying : Saying) : Proc.Entry (Timed (Clients κ)) :=
  ⟨.query (client, .isBootstrapped saying.1), saying.2.mapError .error⟩

end Saying

/-- A pause in a journal. -/
def pauseEntry (interval : Duration) : Proc.Entry (Timed (Clients κ)) := ⟨.sleep interval, ()⟩

/-- The last error that was said. -/
def lastErrorOf (said : List Saying) : Option ApiError := (said.filterMap Saying.error?).getLast?

theorem lastErrorOf_append (said later : List Saying) :
    lastErrorOf (said ++ later) = (lastErrorOf later).or (lastErrorOf said) := by
  unfold lastErrorOf
  rw [List.filterMap_append, List.getLast?_append]

/-- The lanes among some that have not caught up. -/
def ReadinessRecord.missing (record : ReadinessRecord) (lanes : List Lane) : List Lane :=
  lanes.filter fun lane => !record.lane lane

namespace Checker

variable {checker next last : Checker κ} {said later : List Saying}

/-- **What is known after some answers**: a lane has caught up if that was
known before or the node has said so. No lane is asked about of which it is
known. -/
structure Heard (checker : Checker κ) (said : List Saying) (next : Checker κ) : Prop where
  node_eq : next.node = checker.node
  client_eq : next.client = checker.client
  known : ∀ lane, next.record.lane lane = true
    ↔ checker.record.lane lane = true ∨ (lane, .ok true) ∈ said
  lastError_eq : next.lastError = (lastErrorOf said).or checker.lastError
  asked : ∀ saying ∈ said, checker.record.lane saying.1 = false
  once : said.Pairwise fun earlier later => earlier.2 = .ok true → later.1 ≠ earlier.1

namespace Heard

/-- Nothing was said. -/
theorem refl (checker : Checker κ) : Heard checker [] checker where
  node_eq := rfl
  client_eq := rfl
  known lane := by simp
  lastError_eq := rfl
  asked saying hmem := absurd hmem List.not_mem_nil
  once := List.Pairwise.nil

/-- More is said. -/
theorem trans (h : Heard checker said next) (hlater : Heard next later last) :
    Heard checker (said ++ later) last where
  node_eq := hlater.node_eq.trans h.node_eq
  client_eq := hlater.client_eq.trans h.client_eq
  known lane := by rw [hlater.known, h.known, List.mem_append, or_assoc]
  lastError_eq := by rw [hlater.lastError_eq, h.lastError_eq, lastErrorOf_append, Option.or_assoc]
  asked saying hmem := by
    rcases List.mem_append.1 hmem with hmem | hmem
    · exact h.asked saying hmem
    · have hnot := hlater.asked saying hmem
      rw [← Bool.not_eq_true, h.known, not_or] at hnot
      exact Bool.eq_false_iff.2 hnot.1
  once := by
    refine List.pairwise_append.2 ⟨h.once, hlater.once, ?_⟩
    rintro ⟨lane, _⟩ hearlier ⟨_, _⟩ hother rfl rfl
    have hknown := (h.known _).2 (Or.inr hearlier)
    rw [hlater.asked _ hother] at hknown
    cases hknown

end Heard

/-! ## One round -/

section Round

variable {record : ReadinessRecord} {lane : Lane} {lanes : List Lane}

theorem missing_cons_of_known (h : record.lane lane = true) :
    record.missing (lane :: lanes) = record.missing lanes :=
  List.filter_cons_of_neg (by rw [h]; decide)

theorem missing_cons_of_unknown (h : record.lane lane = false) :
    record.missing (lane :: lanes) = lane :: record.missing lanes :=
  List.filter_cons_of_pos (by rw [h]; decide)

/-- A lane more that has caught up is of no account among the others. -/
theorem missing_mark (h : lane ∉ lanes) :
    (record.mark lane).missing lanes = record.missing lanes := by
  refine List.filter_congr fun other hother => ?_
  have hne : (lane == other) = false := beq_false_of_ne fun heq => h (heq ▸ hother)
  rw [ReadinessRecord.lane_mark, hne, Bool.or_false]

theorem not_mem_missing (h : lane ∉ lanes) : lane ∉ record.missing lanes :=
  fun hmem => h (List.mem_filter.1 hmem).1

/-- **What a round of questions comes to.** Each lane that is missing no more
has cost one question, and so has the refusal at which the round ended, if it
did. Such a refusal is one less in store. -/
structure Asked (lanes : List Lane) (checker : Checker κ) (foretold : Foretold)
    (said : List Saying) (ready : Bool) (next : Checker κ) (left : Foretold) : Prop where
  heard : Heard checker said next
  suffix : next.record.missing lanes <:+ checker.record.missing lanes
  length_eq : said.length + (next.record.missing lanes).length
    = (checker.record.missing lanes).length + (if ready then 0 else 1)
  agreed : ready = true → next.record.missing lanes = []
    ∧ foretold.outstanding (checker.record.missing lanes) = 0
  refused : ready = false → next.record.missing lanes ≠ []
    ∧ left.outstanding (next.record.missing lanes) + 1
      = foretold.outstanding (checker.record.missing lanes)

namespace Asked

variable {foretold left : Foretold} {ready : Bool} {answer : Except ApiError Bool}

/-- There is nothing to ask. -/
theorem nil : Asked [] checker foretold [] true checker foretold where
  heard := Heard.refl checker
  suffix := List.suffix_rfl
  length_eq := rfl
  agreed _ := ⟨rfl, rfl⟩
  refused h := absurd h (by decide)

/-- A lane that is known to have caught up is passed over. -/
theorem cons_of_known (hknown : checker.record.lane lane = true)
    (h : Asked lanes checker foretold said ready next left) :
    Asked (lane :: lanes) checker foretold said ready next left := by
  have hstill : next.record.lane lane = true := (h.heard.known lane).2 (Or.inl hknown)
  exact
    { heard := h.heard
      suffix := by
        rw [missing_cons_of_known hknown, missing_cons_of_known hstill]; exact h.suffix
      length_eq := by
        rw [missing_cons_of_known hknown, missing_cons_of_known hstill]; exact h.length_eq
      agreed := by
        rw [missing_cons_of_known hknown, missing_cons_of_known hstill]; exact h.agreed
      refused := by
        rw [missing_cons_of_known hknown, missing_cons_of_known hstill]; exact h.refused }

/-- **A lane that says yes**: the round goes on as one about the other
lanes. -/
theorem cons_of_yes (hlane : lane ∉ lanes) (hunknown : checker.record.lane lane = false)
    (hyes : (foretold lane).head = .ok true)
    (h : Asked lanes { checker with record := checker.record.mark lane }
      (Function.update foretold lane (foretold lane).tail) said ready next left) :
    Asked (lane :: lanes) checker foretold ((lane, .ok true) :: said) ready next left := by
  have hmark : Heard checker [(lane, .ok true)]
      { checker with record := checker.record.mark lane } :=
    { node_eq := rfl
      client_eq := rfl
      known := fun other => by
        rw [ReadinessRecord.lane_mark, Bool.or_eq_true, beq_iff_eq, List.mem_singleton,
          Prod.mk.injEq, eq_self_iff_true, and_true, eq_comm (a := lane)]
      lastError_eq := rfl
      asked := by simpa using hunknown
      once := List.pairwise_singleton _ _ }
  have hstill : next.record.lane lane = true := (h.heard.known lane).2 (Or.inl (by simp))
  have hthen : (checker.record.mark lane).missing lanes = checker.record.missing lanes :=
    missing_mark hlane
  have hstore : foretold.outstanding (lane :: checker.record.missing lanes)
      = Foretold.outstanding (Function.update foretold lane (foretold lane).tail)
        (checker.record.missing lanes) := by
    rw [Foretold.outstanding_cons, refusals_of_yes hyes, zero_add,
      Foretold.outstanding_update (not_mem_missing hlane)]
  obtain ⟨hheard, hsuffix, hlength, hagreed, hrefused⟩ := h
  rw [hthen] at hsuffix hlength hagreed hrefused
  constructor
  · exact hmark.trans hheard
  · rw [missing_cons_of_known hstill, missing_cons_of_unknown hunknown]
    exact hsuffix.trans (List.suffix_cons lane _)
  · rw [missing_cons_of_known hstill, missing_cons_of_unknown hunknown, List.length_cons,
      List.length_cons]
    omega
  · rw [missing_cons_of_known hstill, missing_cons_of_unknown hunknown, hstore]
    exact hagreed
  · rw [missing_cons_of_known hstill, missing_cons_of_unknown hunknown, hstore]
    exact hrefused

/-- **A lane that does not say yes** ends the round. -/
theorem cons_of_no (hlane : lane ∉ lanes) (hunknown : checker.record.lane lane = false)
    (hanswer : (foretold lane).head = answer) (hno : answer ≠ .ok true) :
    Asked (lane :: lanes) checker foretold [(lane, answer)] false
      { checker with lastError := (Saying.error? (lane, answer)).or checker.lastError }
      (Function.update foretold lane (foretold lane).tail) where
  heard :=
    { node_eq := rfl
      client_eq := rfl
      known := fun other => by simp [hno.symm]
      lastError_eq := by cases answer <;> rfl
      asked := by simpa using hunknown
      once := List.pairwise_singleton _ _ }
  suffix := List.suffix_rfl
  length_eq := by simp [Nat.add_comm]
  agreed h := absurd h (by decide)
  refused _ := by
    rw [missing_cons_of_unknown hunknown]
    refine ⟨List.cons_ne_nil _ _, ?_⟩
    have hstore : refusals (foretold lane) = refusals (foretold lane).tail + 1 :=
      refusals_of_no (by rw [hanswer]; exact hno)
    rw [Foretold.outstanding_cons, Foretold.outstanding_cons, Function.update_self,
      Foretold.outstanding_update (not_mem_missing hlane), hstore, add_right_comm]

end Asked

/-- The handler of a wait: a node that says what is foretold, a clock, and a
journal. -/
abbrev listener (clock : Duration → Duration) :
    Proc.Handler (Timed (Clients κ)) (Timeline Foretold × List (Proc.Entry (Timed (Clients κ)))) :=
  Proc.journaled (Timeline.handlerOn clock Foretold.answer)

variable {clock : Duration → Duration} {t : Timeline Foretold}
  {journal : List (Proc.Entry (Timed (Clients κ)))}

theorem runOn_isBootstrapped (client : κ) (lane : Lane) :
    (callNode client (.isBootstrapped lane)).runOn (listener clock) (t, journal)
      = ((t.world lane).head.mapError .error,
        { t with world := Function.update t.world lane (t.world lane).tail },
        journal ++ [Saying.entry client (lane, (t.world lane).head)]) :=
  rfl

/-- **A round of questions**, on lanes in a row. -/
theorem runOn_pollLanes (clock : Duration → Duration) (hlanes : lanes.Nodup) (checker : Checker κ)
    (t : Timeline Foretold) (journal : List (Proc.Entry (Timed (Clients κ)))) :
    ∃ said ready next left, Asked lanes checker t.world said ready next left
      ∧ (checker.pollLanes lanes : Attempt _ ε _).runOn (listener clock) (t, journal)
        = (.ok (ready, next), { t with world := left },
          journal ++ said.map (Saying.entry checker.client)) := by
  induction lanes generalizing checker t journal with
  | nil => exact ⟨[], true, checker, t.world, Asked.nil, by rw [List.map_nil, List.append_nil]; rfl⟩
  | cons lane rest ih =>
    obtain ⟨hlane, hrest⟩ := List.nodup_cons.1 hlanes
    rw [pollLanes]
    cases hknown : checker.record.lane lane with
    | true =>
      rw [if_pos rfl]
      obtain ⟨said, ready, next, left, hasked, hrun⟩ := ih hrest checker t journal
      exact ⟨said, ready, next, left, hasked.cons_of_known hknown, hrun⟩
    | false =>
      rw [if_neg (by decide), Attempt.runOn_bind, Attempt.runOn_outcome, runOn_isBootstrapped]
      cases hanswer : (t.world lane).head with
      | ok yes =>
        cases yes with
        | true =>
          obtain ⟨said, ready, next, left, hasked, hrun⟩ :=
            ih hrest { checker with record := checker.record.mark lane }
              { t with world := Function.update t.world lane (t.world lane).tail }
              (journal ++ [Saying.entry checker.client (lane, .ok true)])
          refine ⟨_, ready, next, left, hasked.cons_of_yes hlane hknown hanswer, ?_⟩
          exact hrun.trans (by rw [List.append_assoc]; rfl)
        | false => exact ⟨_, _, _, _, Asked.cons_of_no hlane hknown hanswer (by decide), rfl⟩
      | error cause =>
        exact ⟨_, _, _, _, Asked.cons_of_no hlane hknown hanswer (by simp), rfl⟩

/-- **A round of questions** about all lanes. -/
theorem runOn_poll (clock : Duration → Duration) (checker : Checker κ) (t : Timeline Foretold)
    (journal : List (Proc.Entry (Timed (Clients κ)))) :
    ∃ said ready next left,
      Asked ReadinessRecord.order checker t.world said ready next left
      ∧ (checker.poll : Attempt _ ε _).runOn (listener clock) (t, journal)
        = (.ok (ready, next), { t with world := left },
          journal ++ said.map (Saying.entry checker.client)) :=
  runOn_pollLanes clock (by decide) checker t journal

end Round

/-! ## Round after round -/

section Rounds

variable {foretold left rest : Foretold} {course : List (List Saying)} {ready : Bool} {n : Nat}

/-- **What up to `n` rounds come to.** If the node gets ready, it does so one
round after its last refusal. If it does not, every round took one refusal out
of what it had in store. -/
structure Lasted (n : Nat) (checker : Checker κ) (foretold : Foretold)
    (course : List (List Saying)) (ready : Bool) (next : Checker κ) (left : Foretold) : Prop where
  heard : Heard checker course.flatten next
  suffix : next.record.pending <:+ checker.record.pending
  agreed : ready = true → next.record.pending = [] ∧ course.length ≤ n
    ∧ (course.length : ℕ∞) = foretold.outstanding checker.record.pending + 1
    ∧ course.flatten.length + 1 = checker.record.pending.length + course.length
  refused : ready = false → course.length = n
    ∧ left.outstanding next.record.pending + n = foretold.outstanding checker.record.pending
    ∧ (checker.record.pending ≠ [] → next.record.pending ≠ [])

namespace Lasted

/-- No round is no wait. -/
theorem zero : Lasted 0 checker foretold [] false checker foretold where
  heard := Heard.refl checker
  suffix := List.suffix_rfl
  agreed h := absurd h (by decide)
  refused _ := ⟨rfl, by rw [Nat.cast_zero, add_zero], id⟩

/-- A round that finds the node ready is the last one. -/
theorem single (h : Asked ReadinessRecord.order checker foretold said true next left) :
    Lasted (n + 1) checker foretold [said] true next left where
  heard := by rw [List.flatten_singleton]; exact h.heard
  suffix := h.suffix
  agreed _ := by
    obtain ⟨hnone, hstore⟩ := h.agreed rfl
    have hlength := h.length_eq
    rw [hnone] at hlength
    refine ⟨hnone, Nat.succ_le_succ (Nat.zero_le n), ?_, ?_⟩
    · exact (congrArg (· + 1) hstore).symm
    · rw [List.flatten_singleton]
      exact congrArg (· + 1) hlength
  refused h := absurd h (by decide)

/-- **A round more** in front, which did not find the node ready. -/
theorem cons (h : Asked ReadinessRecord.order checker foretold said false next left)
    (hlater : Lasted n next left course ready last rest) :
    Lasted (n + 1) checker foretold (said :: course) ready last rest where
  heard := by rw [List.flatten_cons]; exact h.heard.trans hlater.heard
  suffix := hlater.suffix.trans h.suffix
  agreed hready := by
    obtain ⟨hnone, hle, hcourse, hquestions⟩ := hlater.agreed hready
    obtain ⟨-, hstore⟩ := h.refused rfl
    have hlength := h.length_eq
    refine ⟨hnone, Nat.succ_le_succ hle, ?_, ?_⟩
    · rw [List.length_cons, Nat.cast_succ, hcourse]
      exact congrArg (· + 1) hstore
    · rw [List.flatten_cons, List.length_append, List.length_cons]
      simp only [ReadinessRecord.missing, ReadinessRecord.pending] at hlength hquestions ⊢
      rw [if_neg (by decide)] at hlength
      omega
  refused hready := by
    obtain ⟨hall, hcourse, hsome⟩ := hlater.refused hready
    obtain ⟨hmissing, hstore⟩ := h.refused rfl
    refine ⟨congrArg (· + 1) hall, ?_, fun _ => hsome hmissing⟩
    rw [Nat.cast_succ, ← add_assoc, hcourse]
    exact hstore

/-- Whoever may ask at all does. -/
theorem course_ne_nil (h : Lasted (n + 1) checker foretold course ready next left) :
    course ≠ [] := by
  rintro rfl
  cases ready with
  | true =>
    have hzero := (h.agreed rfl).2.2.1
    rw [List.length_nil, Nat.cast_zero] at hzero
    exact one_ne_zero (add_eq_zero.1 hzero.symm).2
  | false => exact absurd (h.refused rfl).1 (Nat.succ_ne_zero n).symm

end Lasted

/-- The journal of a wait: its rounds, and a pause between two of them. -/
def courseJournal (client : κ) (interval : Duration) (course : List (List Saying)) :
    List (Proc.Entry (Timed (Clients κ))) :=
  [pauseEntry interval].intercalate (course.map (List.map (Saying.entry client)))

theorem courseJournal_cons_cons (client : κ) (interval : Duration) (said later : List Saying)
    (course : List (List Saying)) :
    courseJournal client interval (said :: later :: course)
      = said.map (Saying.entry client) ++ [pauseEntry interval]
        ++ courseJournal client interval (later :: course) :=
  List.intercalate_cons_cons

/-- There is a pause less than there are rounds. -/
theorem countP_courseJournal (client : κ) (interval : Duration) (course : List (List Saying)) :
    (courseJournal client interval course).countP Proc.Entry.isPause = course.length - 1 := by
  have hquestions : ∀ said : List Saying,
      (said.map (Saying.entry client)).countP Proc.Entry.isPause = 0 := fun said => by
    rw [List.countP_map]
    exact List.countP_eq_zero.2 fun _ _ => Bool.false_ne_true
  induction course with
  | nil => rfl
  | cons said course ih =>
    cases course with
    | nil => simpa [courseJournal, List.intercalate] using hquestions said
    | cons later course =>
      rw [courseJournal_cons_cons, List.countP_append, List.countP_append, hquestions, ih]
      simp [Proc.Entry.isPause, pauseEntry, Nat.add_comm]

/-- **Up to `n` rounds**, with a pause between two of them. -/
theorem runOn_rounds (clock : Duration → Duration) (interval : Duration) (n : Nat)
    (checker : Checker κ) (t : Timeline Foretold)
    (journal : List (Proc.Entry (Timed (Clients κ)))) :
    ∃ course ready next left, Lasted n checker t.world course ready next left
      ∧ (rounds interval checker n : Attempt _ ε _).runOn (listener clock) (t, journal)
        = (.ok (ready, next),
          ⟨t.epoch, (Timeline.wokenAt clock interval)^[course.length - 1] t.now, left⟩,
          journal ++ courseJournal checker.client interval course) := by
  induction n generalizing checker t journal with
  | zero =>
    exact ⟨[], false, checker, t.world, Lasted.zero, by
      rw [rounds]; exact congrArg (fun entries => (_, t, entries)) (List.append_nil _).symm⟩
  | succ n ih =>
    obtain ⟨said, ready, next, left, hasked, hpoll⟩ :=
      runOn_poll (ε := ε) clock checker t journal
    cases n with
    | zero =>
      refine ⟨[said], ready, next, left, ?_,
        hpoll.trans (by simp [courseJournal, List.intercalate])⟩
      cases ready with
      | true => exact Lasted.single hasked
      | false => exact Lasted.cons hasked Lasted.zero
    | succ n =>
      rw [rounds, Attempt.runOn_bind_ok hpoll]
      cases ready with
      | true =>
        exact ⟨[said], true, next, left, Lasted.single hasked, by
          simp [courseJournal, List.intercalate]; rfl⟩
      | false =>
        obtain ⟨course, ready, last, rest, hlasted, hrun⟩ :=
          ih next ⟨t.epoch, Timeline.wokenAt clock interval t.now, left⟩
            (journal ++ said.map (Saying.entry checker.client) ++ [pauseEntry interval])
        refine ⟨said :: course, ready, last, rest, Lasted.cons hasked hlasted, hrun.trans ?_⟩
        obtain ⟨later, course, rfl⟩ := List.exists_cons_of_ne_nil hlasted.course_ne_nil
        rw [courseJournal_cons_cons, hasked.heard.client_eq, List.append_assoc, List.append_assoc,
          List.append_assoc]
        rfl

end Rounds

/-! ## The law of a wait -/

section Law

/-- **One round after the other**, whether the node is ready or not. -/
def pollTimes (checker : Checker κ) : Nat → Attempt (Timed (Clients κ)) ε (Checker κ)
  | 0 => return checker
  | times + 1 => do
    let (_, checker) ← checker.poll
    checker.pollTimes times

/-- What is heard in any number of rounds. -/
theorem runOn_pollTimes (clock : Duration → Duration) (times : Nat) (checker : Checker κ)
    (t : Timeline Foretold) (journal : List (Proc.Entry (Timed (Clients κ)))) :
    ∃ said next left, Heard checker said next
      ∧ (checker.pollTimes times : Attempt _ ε _).runOn (listener clock) (t, journal)
        = (.ok next, { t with world := left },
          journal ++ said.map (Saying.entry checker.client)) := by
  induction times generalizing checker t journal with
  | zero =>
    exact ⟨[], checker, t.world, Heard.refl checker, by
      rw [pollTimes]; exact congrArg (fun entries => (_, t, entries)) (List.append_nil _).symm⟩
  | succ times ih =>
    obtain ⟨said, ready, next, left, hasked, hpoll⟩ :=
      runOn_poll (ε := ε) clock checker t journal
    obtain ⟨later, last, rest, hheard, hrun⟩ := ih next { t with world := left }
      (journal ++ said.map (Saying.entry checker.client))
    refine ⟨said ++ later, last, rest, hasked.heard.trans hheard, ?_⟩
    rw [pollTimes, Attempt.runOn_bind_ok hpoll]
    refine hrun.trans ?_
    rw [hasked.heard.client_eq, List.map_append, List.append_assoc]

/-- **The course of a wait.** A node that refuses `n` times before it has said
yes on every lane is found ready in round `n + 1`, if the budget allows for
it. Otherwise every round is made, and the error tells which lanes are missing
and what was said last that is an error. -/
structure Course (node : String) (budget : PollBudget) (foretold : Foretold)
    (course : List (List Saying)) (result : Except ReadinessError Unit) (checker : Checker κ) :
    Prop where
  ok_iff : result = .ok ()
    ↔ foretold.outstanding ReadinessRecord.order + 1 ≤ budget.maxAttempts.toNat
  rounds_of_ok : result = .ok () →
    (course.length : ℕ∞) = foretold.outstanding ReadinessRecord.order + 1
  questions_of_ok : result = .ok () →
    (course.flatten.length : ℕ∞) = foretold.outstanding ReadinessRecord.order + 3
  rounds_of_exhausted : result ≠ .ok () → course.length = budget.maxAttempts.toNat
  exhausted : result ≠ .ok () → result = .error (.exhausted node checker.record.pending
    (lastErrorOf course.flatten) budget.maxAttempts)
  message_eq : ∀ cause, result = .error cause → cause.message
    = readinessText node checker.record.pending (lastErrorOf course.flatten)
      ++ " (after " ++ toString budget.maxAttempts ++ " attempts)"
  pending_of_exhausted : result ≠ .ok () → checker.record.pending ≠ []
  pending_suffix : checker.record.pending <:+ ReadinessRecord.order
  marked_iff : ∀ lane, checker.record.lane lane = true ↔ (lane, .ok true) ∈ course.flatten

namespace Lasted

variable {node : String} {client : κ} {budget : PollBudget} {foretold left : Foretold}
  {course : List (List Saying)} {ready : Bool} {checker : Checker κ}

theorem marked_iff (h : Lasted budget.maxAttempts.toNat (ofNode node client) foretold course ready
    checker left) (lane : Lane) :
    checker.record.lane lane = true ↔ (lane, .ok true) ∈ course.flatten := by
  rw [h.heard.known]
  cases lane <;> simp [ofNode, ReadinessRecord.blank, ReadinessRecord.lane]

/-- The course of a wait that ended well. -/
theorem course_of_ready (h : Lasted budget.maxAttempts.toNat (ofNode node client) foretold course
    true checker left) : Course node budget foretold course (.ok ()) checker := by
  obtain ⟨hnone, hle, hcourse, hquestions⟩ := h.agreed rfl
  have hstore : (course.length : ℕ∞) = foretold.outstanding ReadinessRecord.order + 1 := hcourse
  have hthree : course.flatten.length = course.length + 2 :=
    Nat.succ_injective (hquestions.trans (Nat.add_comm _ _))
  exact
    { ok_iff := iff_of_true rfl (hstore ▸ Nat.cast_le.2 hle)
      rounds_of_ok := fun _ => hstore
      questions_of_ok := fun _ => by
        rw [hthree, Nat.cast_add, hstore, add_assoc]
        rfl
      rounds_of_exhausted := fun hnot => absurd rfl hnot
      exhausted := fun hnot => absurd rfl hnot
      message_eq := fun _ herror => absurd herror (by simp)
      pending_of_exhausted := fun hnot => absurd rfl hnot
      pending_suffix := h.suffix
      marked_iff := h.marked_iff }

/-- The course of a wait that was given up. -/
theorem course_of_exhausted (h : Lasted budget.maxAttempts.toNat (ofNode node client) foretold
    course false checker left) :
    Course node budget foretold course (.error (.exhausted checker.node checker.record.pending
      checker.lastError budget.maxAttempts)) checker := by
  obtain ⟨hall, hstore, hsome⟩ := h.refused rfl
  have hmore : ¬ foretold.outstanding ReadinessRecord.order + 1 ≤ budget.maxAttempts.toNat := by
    intro hle
    have hat : (budget.maxAttempts.toNat : ℕ∞) ≤ foretold.outstanding ReadinessRecord.order :=
      le_of_le_of_eq le_add_self hstore
    have hsucc : ((budget.maxAttempts.toNat + 1 : ℕ) : ℕ∞) ≤ budget.maxAttempts.toNat :=
      (add_le_add_left hat 1).trans hle
    exact Nat.not_succ_le_self _ (Nat.cast_le.1 hsucc)
  have herror : checker.lastError = lastErrorOf course.flatten := by
    rw [h.heard.lastError_eq, ofNode, Option.or_none]
  exact
    { ok_iff := iff_of_false (by simp) hmore
      rounds_of_ok := fun hok => absurd hok (by simp)
      questions_of_ok := fun hok => absurd hok (by simp)
      rounds_of_exhausted := fun _ => hall
      exhausted := fun _ => by rw [herror, h.heard.node_eq]; rfl
      message_eq := fun cause hcause => by
        cases hcause
        rw [herror, h.heard.node_eq]
        rfl
      pending_of_exhausted := fun _ => hsome (List.cons_ne_nil Lane.p [.c, .x])
      pending_suffix := h.suffix
      marked_iff := h.marked_iff }

end Lasted

/-- A wait within a budget is its rounds, with a verdict at the end. -/
theorem runOn_await (clock : Duration → Duration) (node : String) (client : κ)
    (budget : PollBudget) (t : Timeline Foretold) :
    ∃ course result checker left,
      ((ofNode node client).await budget : Attempt _ ε _).runOn (listener clock) (t, [])
        = (.ok (result, checker),
          ⟨t.epoch, (Timeline.wokenAt clock budget.interval)^[course.length - 1] t.now, left⟩,
          courseJournal client budget.interval course)
      ∧ Heard (ofNode node client) course.flatten checker
      ∧ Course node budget t.world course result checker := by
  obtain ⟨course, ready, checker, left, hlasted, hrun⟩ :=
    runOn_rounds (ε := ε) clock budget.interval budget.maxAttempts.toNat
      (ofNode node client) t []
  rw [await, Attempt.runOn_bind_ok hrun]
  cases ready with
  | true => exact ⟨course, _, checker, left, rfl, hlasted.heard, hlasted.course_of_ready⟩
  | false => exact ⟨course, _, checker, left, rfl, hlasted.heard, hlasted.course_of_exhausted⟩

/-- **How a wait goes**, whatever the node says of its lanes, and on whatever
clock. The journal is that of rounds with a pause between two of them, and
time passes in the pauses only. Nobody who goes on with what was learned asks
about a lane again that has said yes, even if the node says something else by
then. -/
theorem await_rounds (clock : Duration → Duration) (node : String) (client : κ)
    (budget : PollBudget) (t : Timeline Foretold) :
    ∃ (course : List (List Saying)) (result : Except ReadinessError Unit) (checker : Checker κ)
      (left : Foretold),
      ((ofNode node client).await budget : Attempt _ ε _).runOn (listener clock) (t, [])
        = (.ok (result, checker),
          ⟨t.epoch, (Timeline.wokenAt clock budget.interval)^[course.length - 1] t.now, left⟩,
          courseJournal client budget.interval course)
      ∧ (courseJournal client budget.interval course).countP Proc.Entry.isPause
        = course.length - 1
      ∧ Course node budget t.world course result checker
      ∧ ∀ (times : Nat) (afterwards : Timeline Foretold),
        ∃ said last rest,
          (checker.pollTimes times : Attempt _ ε _).runOn (listener clock) (afterwards, [])
            = (.ok last, { afterwards with world := rest }, said.map (Saying.entry client))
          ∧ (course.flatten ++ said).Pairwise fun earlier later =>
            earlier.2 = .ok true → later.1 ≠ earlier.1 := by
  obtain ⟨course, result, checker, left, hrun, hheard, hcourse⟩ :=
    runOn_await (ε := ε) clock node client budget t
  refine ⟨course, result, checker, left, hrun, countP_courseJournal _ _ _, hcourse, ?_⟩
  intro times afterwards
  obtain ⟨said, last, rest, hlater, hafter⟩ :=
    runOn_pollTimes (ε := ε) clock times checker afterwards []
  rw [hheard.client_eq] at hafter
  exact ⟨said, last, rest, hafter, (hheard.trans hlater).once⟩

end Law

end Checker

end LedgerNet
