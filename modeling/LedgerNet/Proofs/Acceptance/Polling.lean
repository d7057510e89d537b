import LedgerNet.Acceptance
import LedgerNet.Proofs.Program.Running
import Mathlib.Tactic.SplitIfs

/-!
# How a wait for a transaction ends

A wait asks for the state of a transaction at once and then once per
interval. This module says how every wait ends, for whatever the node
replies: at the first reply that settles the matter, if that is among the
replies the timeout allows for, and otherwise with the timeout. With a
timeout of `t` and an interval of `i` there is time for `t / i + 1` replies,
since the first one costs nothing and a question may still be asked at the
very end of the timeout.

What settles the matter is told from the names on the wire
(`RawReply.ending?`), not from the states they are read as, so that a name
nobody knows is seen to count as no answer.

Replies take no time and sleeps last as long as they say. Durations are
finite, and a wait that looks at its clock close to the longest of them
crashes instead of timing out; the interval and the timeout together would
have to exceed half a trillion years.
-/

namespace LedgerNet

/-! ## What a node replies -/

/-- **What a node says when it is asked where a transaction stands**: the
name of a status, with a reason that only the platform lane has a place for,
or an error. -/
inductive RawReply where
  | named (status : String) (reason : Option String)
  | failed (cause : ApiError)
  deriving DecidableEq, Repr

namespace RawReply

/-- A reply as the exchange lane reads it. -/
def onX : RawReply → Outcome ApiError XStatus
  | named status _ => .ok (.ofName status)
  | failed cause => Outcome.failed cause

/-- A reply as the platform lane reads it. -/
def onP : RawReply → Outcome ApiError PStatusReply
  | named status reason => .ok ⟨.ofName status, reason⟩
  | failed cause => Outcome.failed cause

/-- The reason that was given, unless none or an empty one was. -/
def givenReason (label : String) : Option String → String
  | none => label
  | some reason => if reason = "" then label else reason

/-- **How a reply ends a wait**, if it does. -/
def ending? (tx : TxId) (lane : Lane) : RawReply → Option (Except AcceptanceError Unit)
  | failed (.unsupported _) => some (.error (.unsupported lane))
  | failed _ => none
  | named status reason =>
    match lane with
    | .x =>
      if status = "Accepted" then some (.ok ())
      else if status = "Rejected" then some (.error (.abandoned tx .x "rejected"))
      else none
    | .p =>
      if status = "Committed" then some (.ok ())
      else if status = "Dropped" then
        some (.error (.abandoned tx .p (givenReason "dropped" reason)))
      else if status = "Aborted" then
        some (.error (.abandoned tx .p (givenReason "aborted" reason)))
      else none
    | .c => none

/-- The error that a reply is, if it is one. -/
def error? : RawReply → Option ApiError
  | named _ _ => none
  | failed cause => some cause

/-- A reply as the answer to a call. Only the questions for a status are
answered. -/
def answer (reply : RawReply) : (call : Call) → Outcome ApiError call.Result
  | .xStatus _ => reply.onX
  | .pStatus _ => reply.onP
  | call => Outcome.failed (.unsupported call.method)

/-- Where a reply says that a transaction stands. -/
def state (reply : RawReply) : Lane → Outcome ApiError AcceptanceState
  | .x => reply.onX.map XStatus.state
  | .p => reply.onP.map PStatusReply.state
  | .c => Outcome.failed (.unsupported "avax.getAtomicTxStatus")

end RawReply

/-- A status on the exchange lane that has neither of two names is no
verdict. -/
theorem XStatus.state_ofName (status : String) :
    (XStatus.ofName status).state
      = if status = "Accepted" then .accepted
        else if status = "Rejected" then .abandoned "rejected"
        else .pending := by
  unfold XStatus.ofName
  split <;> simp_all [XStatus.state]

/-- A status on the platform lane that has none of three names is no
verdict. -/
theorem PStatusReply.state_ofName (status : String) (reason : Option String) :
    (PStatusReply.mk (.ofName status) reason).state
      = if status = "Committed" then .accepted
        else if status = "Dropped" then .abandoned (RawReply.givenReason "dropped" reason)
        else if status = "Aborted" then .abandoned (RawReply.givenReason "aborted" reason)
        else .pending := by
  have hreason : ∀ label, ((reason.filter (· ≠ "")).getD label)
      = RawReply.givenReason label reason := by
    intro label
    cases reason with
    | none => rfl
    | some text => by_cases h : text = "" <;> simp [Option.filter, RawReply.givenReason, h]
  unfold PStatus.ofName
  split <;> simp_all [PStatusReply.state, PStatusReply.reasonOr]

namespace Acceptance

variable {tx : TxId} {lane : Lane} {reply : RawReply}

/-- A reply that ends a wait is the verdict. -/
theorem verdict_of_ending (hlane : lane ≠ .c) {ending : Except AcceptanceError Unit}
    (h : reply.ending? tx lane = some ending) :
    verdict tx lane (reply.state lane)
      = match ending with
        | .ok () => .settled
        | .error cause => .lost cause := by
  cases reply with
  | failed cause =>
    cases cause <;> simp only [RawReply.ending?, reduceCtorEq, Option.some.injEq] at h
    obtain rfl := h
    cases lane <;> rfl
  | named status reason =>
    cases lane with
    | x =>
      simp only [RawReply.ending?] at h
      simp only [RawReply.state, RawReply.onX, Except.map, XStatus.state_ofName]
      split_ifs at h ⊢ <;> cases h <;> rfl
    | p =>
      simp only [RawReply.ending?] at h
      simp only [RawReply.state, RawReply.onP, Except.map, PStatusReply.state_ofName]
      split_ifs at h ⊢ <;> cases h <;> rfl
    | c => exact absurd rfl hlane

/-- **A reply that ends no wait leaves the matter undecided**, whatever else
it says; if it is an error, that is remembered. -/
theorem verdict_of_no_ending (hlane : lane ≠ .c) (h : reply.ending? tx lane = none) :
    verdict tx lane (reply.state lane) = .undecided reply.error? := by
  cases reply with
  | failed cause =>
    cases cause <;> simp only [RawReply.ending?, reduceCtorEq] at h <;>
      (cases lane <;> first | rfl | exact absurd rfl hlane)
  | named status reason =>
    cases lane with
    | x =>
      simp only [RawReply.ending?] at h
      simp only [RawReply.state, RawReply.onX, Except.map, XStatus.state_ofName]
      split_ifs at h ⊢
      rfl
    | p =>
      simp only [RawReply.ending?] at h
      simp only [RawReply.state, RawReply.onP, Except.map, PStatusReply.state_ofName]
      split_ifs at h ⊢
      rfl
    | c => exact absurd rfl hlane

/-! ## One question -/

variable {κ : Type}

/-- The question for a state on a lane that has one. -/
def statusCall (tx : TxId) : Lane → Call
  | .x => .xStatus tx
  | _ => .pStatus tx

/-- **A node that gives its replies in turn** and notes what it is asked. -/
def inTurn (replies : Nat → RawReply) : Proc.Handler (Clients κ) (List (κ × Call)) :=
  fun asked notes => ((replies notes.length).answer asked.2, notes ++ [asked])

section Wait

variable (round : Duration → Duration) (client : κ) (tx : TxId) (lane : Lane)
  (settings : PollSettings) (replies : Nat → RawReply) (epoch begun : Duration)

/-- A wait after some questions, when some intervals have passed. -/
def asking (questions intervals : Nat) : Timeline (List (κ × Call)) :=
  ⟨epoch, ⟨begun.nanos + intervals * settings.interval.nanos⟩,
    List.replicate questions (client, statusCall tx lane)⟩

/-- The error that is remembered after some replies: the last one. -/
def remembered (count : Nat) : Option ApiError :=
  ((List.range count).filterMap fun index => (replies index).error?).getLast?

/-- **How many replies there is time for.** -/
def allowed : Nat := settings.timeout.nanos / settings.interval.nanos + 1

variable {round client tx lane settings replies epoch begun}

theorem remembered_succ (count : Nat) :
    remembered replies (count + 1) = (replies count).error?.or (remembered replies count) := by
  unfold remembered
  rw [List.range_succ, List.filterMap_append, List.getLast?_append]
  cases h : (replies count).error? <;> simp [h]

/-- One question: the node is asked, and its reply is looked at. -/
theorem runOn_nodeStatus (hlane : lane ≠ .c) (questions intervals : Nat) :
    (nodeStatus client lane tx).runOn (Timeline.handlerOn round (inTurn replies))
        (asking client tx lane settings epoch begun questions intervals)
      = ((replies questions).state lane,
        asking client tx lane settings epoch begun (questions + 1) intervals) := by
  cases lane with
  | x =>
    unfold nodeStatus
    rw [Attempt.runOn_map, Timeline.runOn_callNode]
    simp [inTurn, asking, statusCall, RawReply.answer, RawReply.state, List.replicate_succ']
  | p =>
    unfold nodeStatus
    rw [Attempt.runOn_map, Timeline.runOn_callNode]
    simp [inTurn, asking, statusCall, RawReply.answer, RawReply.state, List.replicate_succ']
  | c => exact absurd rfl hlane

/-- What comes of a question depends on the verdict alone. -/
theorem runOn_pollFrom_succ (hlane : lane ≠ .c) (last : Option ApiError) (left count : Nat) :
    (pollFrom (nodeStatus client lane) tx lane settings begun last (left + 1)).runOn
        (Timeline.handlerOn round (inTurn replies))
        (asking client tx lane settings epoch begun count count)
      = (match verdict tx lane ((replies count).state lane) with
          | .settled => pure ()
          | .lost cause => .fail cause
          | .broken cause => .ofOutcome (Outcome.crashed cause)
          | .undecided cause => do
            let waited := (← elapsed).minusOrZero begun
            let next ← Attempt.ofChecked (waited.plus settings.interval)
            if settings.timeout.nanos < next.nanos then
              .fail (.timeout tx lane waited (cause.or last))
            else
              sleep settings.interval
              pollFrom (nodeStatus client lane) tx lane settings begun (cause.or last) left
          : Attempt (Timed (Clients κ)) AcceptanceError Unit).runOn
        (Timeline.handlerOn round (inTurn replies))
        (asking client tx lane settings epoch begun (count + 1) count) := by
  rw [pollFrom]
  exact Attempt.runOn_bind_ok (by rw [Attempt.runOn_outcome, runOn_nodeStatus hlane])

/-- A reply that ends the wait ends it at once. -/
theorem runOn_pollFrom_of_ending (hlane : lane ≠ .c) {last : Option ApiError} {left count : Nat}
    {ending : Except AcceptanceError Unit} (h : (replies count).ending? tx lane = some ending) :
    (pollFrom (nodeStatus client lane) tx lane settings begun last (left + 1)).runOn
        (Timeline.handlerOn round (inTurn replies))
        (asking client tx lane settings epoch begun count count)
      = (ending.mapError Failure.error,
        asking client tx lane settings epoch begun (count + 1) count) := by
  rw [runOn_pollFrom_succ hlane, verdict_of_ending hlane h]
  cases ending with
  | ok _ => rfl
  | error cause => rfl

/-- What a wait has waited for, after some intervals. -/
theorem minusOrZero_begun (questions intervals : Nat) :
    (asking client tx lane settings epoch begun questions intervals).now.minusOrZero begun
      = ⟨intervals * settings.interval.nanos⟩ := by
  simp [asking, Duration.minusOrZero]

/-- After a reply that ends no wait, the clock decides. -/
theorem runOn_pollFrom_of_no_ending (hlane : lane ≠ .c) {last : Option ApiError}
    {left count : Nat} (h : (replies count).ending? tx lane = none) :
    (pollFrom (nodeStatus client lane) tx lane settings begun last (left + 1)).runOn
        (Timeline.handlerOn round (inTurn replies))
        (asking client tx lane settings epoch begun count count)
      = (do
          let next ← Attempt.ofChecked
            ((Duration.mk (count * settings.interval.nanos)).plus settings.interval)
          if settings.timeout.nanos < next.nanos then
            .fail (.timeout tx lane ⟨count * settings.interval.nanos⟩
              ((replies count).error?.or last))
          else
            sleep settings.interval
            pollFrom (nodeStatus client lane) tx lane settings begun
              ((replies count).error?.or last) left
          : Attempt (Timed (Clients κ)) AcceptanceError Unit).runOn
        (Timeline.handlerOn round (inTurn replies))
        (asking client tx lane settings epoch begun (count + 1) count) := by
  rw [runOn_pollFrom_succ hlane, verdict_of_no_ending hlane h]
  refine (Attempt.runOn_bind_ok Timeline.runOn_elapsed).trans ?_
  rw [minusOrZero_begun]

/-- **A reply that ends no wait, with time for another one**: the wait goes
on after an interval. -/
theorem runOn_pollFrom_of_time (hlane : lane ≠ .c) {last : Option ApiError} {left count : Nat}
    (h : (replies count).ending? tx lane = none)
    (htimeout : settings.timeout.nanos < Duration.limit)
    (htime : (count + 1) * settings.interval.nanos ≤ settings.timeout.nanos)
    (hround : round ⟨begun.nanos + (count + 1) * settings.interval.nanos⟩
      = ⟨begun.nanos + (count + 1) * settings.interval.nanos⟩) :
    (pollFrom (nodeStatus client lane) tx lane settings begun last (left + 1)).runOn
        (Timeline.handlerOn round (inTurn replies))
        (asking client tx lane settings epoch begun count count)
      = (pollFrom (nodeStatus client lane) tx lane settings begun
          ((replies count).error?.or last) left).runOn
        (Timeline.handlerOn round (inTurn replies))
        (asking client tx lane settings epoch begun (count + 1) (count + 1)) := by
  have hnext : count * settings.interval.nanos + settings.interval.nanos
      = (count + 1) * settings.interval.nanos := (Nat.succ_mul _ _).symm
  have hsum : (Duration.mk (count * settings.interval.nanos)).plus settings.interval
      = .ok ⟨(count + 1) * settings.interval.nanos⟩ := by
    rw [Duration.plus_eq_ok_iff, hnext]
    exact ⟨by omega, rfl⟩
  have hwoken : (asking client tx lane settings epoch begun (count + 1) count).advancedTo
        (round ⟨begun.nanos + count * settings.interval.nanos + settings.interval.nanos⟩)
      = asking client tx lane settings epoch begun (count + 1) (count + 1) := by
    rw [Nat.add_assoc, hnext, hround]
    simp [asking, Timeline.advancedTo, ← hnext]
  rw [runOn_pollFrom_of_no_ending hlane h]
  refine (Attempt.runOn_bind_ok (by rw [hsum, Attempt.runOn_ofChecked]; rfl)).trans ?_
  rw [if_neg (Nat.not_lt.2 htime)]
  exact (Attempt.runOn_bind_ok (Timeline.runOn_sleep _)).trans (congrArg _ hwoken)

/-- **A reply that ends no wait, with no time for another one**: the wait is
over. -/
theorem runOn_pollFrom_of_no_time (hlane : lane ≠ .c) {last : Option ApiError} {left count : Nat}
    (h : (replies count).ending? tx lane = none)
    (htime : settings.timeout.nanos < (count + 1) * settings.interval.nanos) :
    (pollFrom (nodeStatus client lane) tx lane settings begun last (left + 1)).runOn
        (Timeline.handlerOn round (inTurn replies))
        (asking client tx lane settings epoch begun count count)
      = (if (count + 1) * settings.interval.nanos < Duration.limit then
          Outcome.failed (.timeout tx lane ⟨count * settings.interval.nanos⟩
            ((replies count).error?.or last))
        else Outcome.crashed (.overflow .durationSum),
        asking client tx lane settings epoch begun (count + 1) count) := by
  have hsum : (Duration.mk (count * settings.interval.nanos)).plus settings.interval
      = if (count + 1) * settings.interval.nanos < Duration.limit then
          .ok ⟨(count + 1) * settings.interval.nanos⟩
        else .error .durationSum := by
    unfold Duration.plus
    rw [Nat.succ_mul]
  rw [runOn_pollFrom_of_no_ending hlane h, hsum]
  split
  · refine (Attempt.runOn_bind_ok (Attempt.runOn_ofChecked _)).trans ?_
    rw [if_pos htime]
    rfl
  · exact Attempt.runOn_bind_error (Attempt.runOn_ofChecked _)

/-! ## The whole wait -/

/-- **As long as no reply ends the wait it goes on**, and no question is
left out. The induction is on the questions; each takes one from the budget
of the wait. -/
theorem runOn_pollFrom_reaches (hlane : lane ≠ .c) {budget : Nat}
    (htimeout : settings.timeout.nanos < Duration.limit) {count : Nat} (hbudget : count ≤ budget)
    (hcount : count < allowed settings) (h : ∀ j < count, (replies j).ending? tx lane = none)
    (hround : ∀ j < allowed settings, round ⟨begun.nanos + j * settings.interval.nanos⟩
      = ⟨begun.nanos + j * settings.interval.nanos⟩) :
    (pollFrom (nodeStatus client lane) tx lane settings begun none budget).runOn
        (Timeline.handlerOn round (inTurn replies))
        (asking client tx lane settings epoch begun 0 0)
      = (pollFrom (nodeStatus client lane) tx lane settings begun (remembered replies count)
          (budget - count)).runOn
        (Timeline.handlerOn round (inTurn replies))
        (asking client tx lane settings epoch begun count count) := by
  induction count with
  | zero => rfl
  | succ count ih =>
    have hleft : budget - count = budget - (count + 1) + 1 := by omega
    have htime : (count + 1) * settings.interval.nanos ≤ settings.timeout.nanos :=
      Nat.le_trans (Nat.mul_le_mul_right _ (Nat.le_of_lt_succ hcount)) (Nat.div_mul_le_self _ _)
    rw [ih (by omega) (by omega) fun j hj => h j (by omega), hleft,
      runOn_pollFrom_of_time hlane (h count (Nat.lt_succ_self _)) htimeout htime
        (hround _ hcount), remembered_succ]

/-- A wait begins with no question asked. -/
theorem asking_zero :
    asking client tx lane settings epoch begun 0 0 = (⟨epoch, begun, []⟩ : Timeline _) := by
  simp [asking]

/-- No more than the timeout passes while there is time for replies, and one
more interval would exceed it. -/
theorem timeout_lt_allowed (hinterval : 0 < settings.interval.nanos) :
    settings.timeout.nanos < allowed settings * settings.interval.nanos := by
  rw [allowed, Nat.mul_comm]
  exact Nat.lt_mul_div_succ _ hinterval

/-- A wait looks at the clock and begins to ask. -/
theorem runOn_await {σ : Type} {answer : Proc.Handler (Clients κ) σ} {t : Timeline σ}
    {source : StatusSource (Clients κ)} :
    (await source tx lane settings).runOn (Timeline.handlerOn round answer) t
      = (pollFrom source tx lane settings t.now none maxPolls).runOn
        (Timeline.handlerOn round answer) t := by
  unfold await
  -- the budget is not to be computed
  generalize maxPolls = budget
  exact Attempt.runOn_bind_ok Timeline.runOn_elapsed

/-- **A wait stands before a question** when no reply before it has ended the
wait. -/
theorem runOn_await_reaches (hlane : lane ≠ .c)
    (htimeout : settings.timeout.nanos < Duration.limit) (hallowed : allowed settings < 2 ^ 32)
    (hround : ∀ j < allowed settings, round ⟨begun.nanos + j * settings.interval.nanos⟩
      = ⟨begun.nanos + j * settings.interval.nanos⟩)
    {count : Nat} (hcount : count < allowed settings)
    (h : ∀ earlier < count, (replies earlier).ending? tx lane = none) :
    ∃ left, (await (nodeStatus client lane) tx lane settings).runOn
        (Timeline.handlerOn round (inTurn replies)) ⟨epoch, begun, []⟩
      = (pollFrom (nodeStatus client lane) tx lane settings begun (remembered replies count)
          (left + 1)).runOn
        (Timeline.handlerOn round (inTurn replies))
        (asking client tx lane settings epoch begun count count) := by
  have hbudget : allowed settings ≤ maxPolls := Nat.le_sub_one_of_lt hallowed
  have hbegun : (asking client tx lane settings epoch begun 0 0).now = begun := by simp [asking]
  rw [runOn_await, ← asking_zero, hbegun]
  generalize maxPolls = budget at hbudget ⊢
  have hleft : budget - (count + 1) + 1 = budget - count := by omega
  refine ⟨budget - (count + 1), ?_⟩
  rw [hleft]
  exact runOn_pollFrom_reaches hlane htimeout (by omega) hcount h hround

/-- **A wait that no reply ends**, as far as there is time for replies: it is over
after the last of them. It ends with the timeout, if it still can look whether
there is time for another one. -/
theorem runOn_await_of_no_ending (hlane : lane ≠ .c) (hinterval : 0 < settings.interval.nanos)
    (htimeout : settings.timeout.nanos < Duration.limit) (hallowed : allowed settings < 2 ^ 32)
    (hround : ∀ j < allowed settings, round ⟨begun.nanos + j * settings.interval.nanos⟩
      = ⟨begun.nanos + j * settings.interval.nanos⟩)
    (h : ∀ count < allowed settings, (replies count).ending? tx lane = none) :
    (await (nodeStatus client lane) tx lane settings).runOn
        (Timeline.handlerOn round (inTurn replies)) ⟨epoch, begun, []⟩
      = (if allowed settings * settings.interval.nanos < Duration.limit then
          Outcome.failed (.timeout tx lane
            ⟨settings.timeout.nanos / settings.interval.nanos * settings.interval.nanos⟩
            (remembered replies (allowed settings)))
        else Outcome.crashed (.overflow .durationSum),
        ⟨epoch, ⟨begun.nanos
            + settings.timeout.nanos / settings.interval.nanos * settings.interval.nanos⟩,
          List.replicate (allowed settings) (client, statusCall tx lane)⟩) := by
  have hlast : settings.timeout.nanos / settings.interval.nanos < allowed settings :=
    Nat.lt_succ_self _
  obtain ⟨left, hreaches⟩ := runOn_await_reaches hlane htimeout hallowed hround hlast
    fun earlier hearlier => h earlier (by omega)
  rw [hreaches, runOn_pollFrom_of_no_time hlane (h _ hlast) (timeout_lt_allowed hinterval),
    ← remembered_succ]
  rfl

/-- **How a wait ends**, for all replies. The clock is exact at the points of
the wait, the timeout is a duration, and the replies that there is time for
can be counted.

If a reply ends the wait and none before it does, the wait ends as that reply
says, after as many intervals as there are replies before it, and every one
of them was asked for once. If none of the replies that there is time for
ends it, all of those are asked for and no other, and the wait ends with the
timeout: it reports the time of its last question and the last error that it
was given. Where one interval more than the timeout allows for is too long for
a duration, the wait crashes instead when it looks whether there is time for
another question. -/
theorem await_ends (round : Duration → Duration) (client : κ) {lane : Lane} (hlane : lane ≠ .c)
    (tx : TxId) (settings : PollSettings) (replies : Nat → RawReply) (epoch begun : Duration)
    (hinterval : 0 < settings.interval.nanos)
    (htimeout : settings.timeout.nanos < Duration.limit)
    (hallowed : allowed settings < 2 ^ 32)
    (hround : ∀ count < allowed settings,
      round ⟨begun.nanos + count * settings.interval.nanos⟩
        = ⟨begun.nanos + count * settings.interval.nanos⟩) :
    (∀ count < allowed settings, ∀ ending : Except AcceptanceError Unit,
      (∀ earlier < count, (replies earlier).ending? tx lane = none) →
      (replies count).ending? tx lane = some ending →
      (await (nodeStatus client lane) tx lane settings).runOn
          (Timeline.handlerOn round (inTurn replies)) ⟨epoch, begun, []⟩
        = (ending.mapError Failure.error,
          ⟨epoch, ⟨begun.nanos + count * settings.interval.nanos⟩,
            List.replicate (count + 1) (client, statusCall tx lane)⟩))
    ∧ ((∀ count < allowed settings, (replies count).ending? tx lane = none) →
      (await (nodeStatus client lane) tx lane settings).runOn
          (Timeline.handlerOn round (inTurn replies)) ⟨epoch, begun, []⟩
        = (if allowed settings * settings.interval.nanos < Duration.limit then
            Outcome.failed (.timeout tx lane
              ⟨settings.timeout.nanos / settings.interval.nanos * settings.interval.nanos⟩
              (remembered replies (allowed settings)))
          else Outcome.crashed (.overflow .durationSum),
          ⟨epoch, ⟨begun.nanos
              + settings.timeout.nanos / settings.interval.nanos * settings.interval.nanos⟩,
            List.replicate (allowed settings) (client, statusCall tx lane)⟩)
      ∧ settings.timeout.nanos / settings.interval.nanos * settings.interval.nanos
          ≤ settings.timeout.nanos) := by
  refine ⟨fun count hcount ending hearlier hending => ?_, fun hnone =>
    ⟨runOn_await_of_no_ending hlane hinterval htimeout hallowed hround hnone,
      Nat.div_mul_le_self _ _⟩⟩
  obtain ⟨left, hreaches⟩ := runOn_await_reaches hlane htimeout hallowed hround hcount hearlier
  rw [hreaches]
  exact runOn_pollFrom_of_ending hlane hending

end Wait

/-- A timeout of two and a half intervals leaves time for three replies. The
last of them may still end the wait, on the clock of a timeline. -/
theorem await_ends_with_third_reply :
    let settings : PollSettings := ⟨.ofMillis 1000, .ofMillis 2500⟩
    let replies : Nat → RawReply := fun index =>
      if index < 2 then .named "Processing" none else .named "Accepted" none
    allowed settings = 3
      ∧ (await (nodeStatus "node" .x) "tx" .x settings).runOn
          (Timeline.handler (inTurn replies)) ⟨.zero, .ofMillis 7, []⟩
        = (.ok (), ⟨.zero, .ofMillis 2007, List.replicate 3 ("node", .xStatus "tx")⟩) := by
  intro settings replies
  refine ⟨by decide, ?_⟩
  rw [Timeline.handler_eq_handlerOn]
  have hlane : Lane.x ≠ .c := by decide
  have hround := fun count (_ : count < allowed settings) => Timeline.tick_ofMillis_add 7 1000 count
  have hends := (await_ends Timeline.tick "node" hlane "tx" settings replies .zero
    (.ofMillis 7) (by decide) (by decide) (by decide) hround).1
  have hpending : ∀ earlier < 2, (replies earlier).ending? "tx" .x = none := by
    intro earlier hearlier
    rw [show replies earlier = .named "Processing" none from if_pos hearlier]
    rfl
  have hthird : (replies 2).ending? "tx" .x = some (.ok ()) := by simp [replies, RawReply.ending?]
  have hnow : (⟨(Duration.ofMillis 7).nanos + 2 * settings.interval.nanos⟩ : Duration)
    = .ofMillis 2007 := by decide
  rw [← hnow]
  exact hends 2 (by decide) (.ok ()) hpending hthird

/-- A wait with an interval of more than half a billion years and the longest timeout
of whole milliseconds has time for a thousand and one questions. After the last of
them it looks whether there is time for another one, and the time until then is no
duration: it crashes, and there is no timeout. -/
theorem await_crashes_overlong :
    let interval : Duration := .ofMillis 18446744073709551615
    let settings : PollSettings := ⟨interval, .ofMillis 18446744073709551615999⟩
    0 < settings.interval.nanos ∧ settings.timeout.nanos < Duration.limit
      ∧ allowed settings = 1001
      ∧ (await (nodeStatus "node" .x) "tx" .x settings).runOn
          (Timeline.handler (inTurn fun _ => .named "Processing" none)) ⟨.zero, .zero, []⟩
        = (Outcome.crashed (.overflow .durationSum),
          ⟨.zero, ⟨1000 * interval.nanos⟩, List.replicate 1001 ("node", .xStatus "tx")⟩) := by
  intro interval settings
  have hallowed : allowed settings = 1001 := by decide
  have hround : ∀ j < allowed settings,
      Timeline.tick ⟨Duration.zero.nanos + j * settings.interval.nanos⟩
        = ⟨Duration.zero.nanos + j * settings.interval.nanos⟩ :=
    fun j _ => Timeline.tick_ofMillis_add 0 18446744073709551615 j
  have hlong : ¬ 1001 * settings.interval.nanos < Duration.limit := by decide
  have hlast : (⟨Duration.zero.nanos
      + settings.timeout.nanos / settings.interval.nanos * settings.interval.nanos⟩ : Duration)
    = ⟨1000 * interval.nanos⟩ := by decide
  refine ⟨by decide, by decide, hallowed, ?_⟩
  rw [Timeline.handler_eq_handlerOn, runOn_await_of_no_ending (by decide) (by decide) (by decide)
    (by rw [hallowed]; decide) hround fun _ _ => rfl, hallowed, if_neg hlong, hlast]
  rfl

end Acceptance

end LedgerNet
