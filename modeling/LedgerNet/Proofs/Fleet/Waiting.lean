import LedgerNet.Proofs.Program.Conversation
import LedgerNet.Readiness

/-!
# What is said while a node is waited for

A wait asks a node whether it has caught up, lane by lane and round by
round, and asks nothing else. It can end in three ways. The node is ready,
and then it has said yes on every lane. The budget ran out, and then there
was one refusal in each round, so as many as the budget has attempts. Or the
node broke down in the middle of an answer, which ends the wait at once.

So whether a wait ends well can be read off the answers of the node: it does
if there are fewer refusals than attempts and no breakdown.
-/

namespace LedgerNet

namespace Exchange

variable {κ : Type}

/-- The node has caught up on a lane, and says so. -/
def caughtUp (client : κ) (lane : Lane) : Exchange (Clients κ) :=
  ⟨(client, .isBootstrapped lane), .ok true⟩

/-- **A refusal**: asked whether it has caught up on a lane, the node does not
say yes. -/
def isRefusal : Exchange (Clients κ) → Bool
  | ⟨(_, .isBootstrapped _), .ok true⟩ => false
  | ⟨(_, .isBootstrapped _), _⟩ => true
  | _ => false

/-- **A breakdown**: asked whether it has caught up on a lane, the node breaks
down. -/
def isBreakdown : Exchange (Clients κ) → Bool
  | ⟨(_, .isBootstrapped _), .error (.crash _)⟩ => true
  | _ => false

end Exchange

/-- Nothing is said in a pause. -/
theorem Attempt.talk_sleep_bind {Q : Interface.{0}} {ε α : Type} {d : Duration}
    {next : Unit → Attempt (Timed Q) ε α} {log : List (Exchange Q)} {outcome : Outcome ε α}
    (h : (sleep d >>= next).Talk log outcome) : (next ()).Talk log outcome := by
  obtain ⟨_, rest, rfl, hnext⟩ := h
  exact hnext

namespace Checker

variable {κ ε : Type} {checker : Checker κ} {log : List (Exchange (Clients κ))}

/-- Only the node that is waited for is asked, and only whether it has caught
up. -/
def Asks (client : κ) (log : List (Exchange (Clients κ))) : Prop :=
  ∀ exchange ∈ log, ∃ lane, exchange.question = (client, .isBootstrapped lane)

/-- **What is known after some questions** is what was known before and what
the node said in between. -/
structure Learns (checker next : Checker κ) (log : List (Exchange (Clients κ))) : Prop where
  asks : Asks checker.client log
  client_eq : next.client = checker.client
  keeps : ∀ lane, checker.record.lane lane = true → next.record.lane lane = true
  heard : ∀ lane, next.record.lane lane = true →
    checker.record.lane lane = true ∨ Exchange.caughtUp checker.client lane ∈ log

namespace Learns

variable {next last : Checker κ} {later : List (Exchange (Clients κ))}

/-- Nothing is learned without a question. -/
theorem refl (checker : Checker κ) : Learns checker checker [] :=
  ⟨nofun, rfl, fun _ => id, fun _ => Or.inl⟩

/-- More is learned by more questions. -/
theorem trans (h : Learns checker next log) (hnext : Learns next last later) :
    Learns checker last (log ++ later) := by
  refine ⟨?_, hnext.client_eq.trans h.client_eq, ?_, ?_⟩
  · intro exchange hmem
    rcases List.mem_append.1 hmem with hmem | hmem
    · exact h.asks exchange hmem
    · rw [← h.client_eq]
      exact hnext.asks exchange hmem
  · exact fun lane hlane => hnext.keeps lane (h.keeps lane hlane)
  · intro lane hlane
    rcases hnext.heard lane hlane with hbefore | hsaid
    · exact (h.heard lane hbefore).imp_right (List.mem_append_left later)
    · rw [h.client_eq] at hsaid
      exact Or.inr (List.mem_append_right _ hsaid)

end Learns

/-- **How some rounds can end**, if the rounds that do not find the node ready
are as many as `rounds`: they find it ready, or they do not and it refused
once in each, or it breaks down. -/
inductive Polled (checker : Checker κ) (rounds : Nat) (log : List (Exchange (Clients κ))) :
    Outcome ε (Bool × Checker κ) → Prop where
  | ready (next : Checker κ) (learns : Learns checker next log)
    (all : ∀ lane, next.record.lane lane = true) : Polled checker rounds log (.ok (true, next))
  | refused (next : Checker κ) (learns : Learns checker next log)
    (refusals : log.countP Exchange.isRefusal = rounds) :
    Polled checker rounds log (.ok (false, next))
  | broken (cause : Crash) (asks : Asks checker.client log)
    (breakdown : ∃ exchange ∈ log, exchange.isBreakdown = true) :
    Polled checker rounds log (Outcome.crashed cause)

/-- More can have been asked before. -/
theorem Polled.after {next : Checker κ} {rounds more : Nat} {later : List (Exchange (Clients κ))}
    {outcome : Outcome ε (Bool × Checker κ)} (h : Learns checker next log)
    (hcount : log.countP Exchange.isRefusal = rounds) (hnext : next.Polled more later outcome) :
    checker.Polled (rounds + more) (log ++ later) outcome := by
  cases hnext with
  | ready last learns all => exact .ready last (h.trans learns) all
  | refused last learns refusals =>
    refine .refused last (h.trans learns) ?_
    rw [List.countP_append, hcount, refusals]
  | broken cause asks breakdown =>
    obtain ⟨exchange, hmem, hbreakdown⟩ := breakdown
    refine .broken cause ?_ ⟨exchange, List.mem_append_right _ hmem, hbreakdown⟩
    intro other hother
    rcases List.mem_append.1 hother with hother | hother
    · exact h.asks other hother
    · rw [← h.client_eq]
      exact asks other hother

/-- A yes is taken down. -/
theorem learns_mark (checker : Checker κ) (lane : Lane) :
    Learns checker { checker with record := checker.record.mark lane }
      [Exchange.caughtUp checker.client lane] := by
  refine ⟨?_, rfl, ?_, ?_⟩
  · intro exchange hmem
    exact ⟨lane, by rw [List.mem_singleton.1 hmem]; rfl⟩
  · intro other hother
    rw [ReadinessRecord.lane_mark, hother, Bool.true_or]
  · intro other hother
    rw [ReadinessRecord.lane_mark, Bool.or_eq_true, beq_iff_eq] at hother
    refine hother.imp_right fun heq => ?_
    rw [heq]
    exact List.mem_singleton_self _

/-- **The conversation of a round**, by induction on the lanes that are left:
if those that are not among them have been taken down, a round that goes
well finds the node ready. -/
theorem talk_pollLanes {lanes : List Lane}
    (hlanes : ∀ lane, lane ∉ lanes → checker.record.lane lane = true)
    {outcome : Outcome ε (Bool × Checker κ)} (h : (checker.pollLanes lanes).Talk log outcome) :
    checker.Polled 1 log outcome := by
  induction lanes generalizing checker log with
  | nil =>
    obtain ⟨rfl, rfl⟩ := h
    exact .ready checker (.refl checker) fun lane => hlanes lane List.not_mem_nil
  | cons lane rest ih =>
    unfold pollLanes at h
    split at h
    · rename_i hknown
      refine ih (fun other hother => ?_) h
      by_cases heq : other = lane
      · rw [heq, hknown]
      · exact hlanes other (List.not_mem_cons_of_ne_of_not_mem heq hother)
    · obtain ⟨cause, hasked, -⟩ | ⟨reply, before, after, rfl, hasked, hnext⟩ :=
        Attempt.talk_bind.1 h
      · obtain ⟨_, -, hnever⟩ := Attempt.talk_outcome.1 hasked
        exact absurd hnever nofun
      obtain ⟨answer, hcall, hanswer⟩ := Attempt.talk_outcome.1 hasked
      obtain rfl := Except.ok.inj hanswer
      obtain rfl := Attempt.talk_callNode.1 hcall
      have hasks : Asks checker.client
          [(⟨(checker.client, .isBootstrapped lane), reply⟩ : Exchange (Clients κ))] := by
        intro exchange hmem
        exact ⟨lane, by rw [List.mem_singleton.1 hmem]⟩
      rcases reply with (cause | cause) | answer
      · -- the question failed: that counts as a refusal
        obtain ⟨rfl, rfl⟩ := hnext
        exact .refused _ ⟨hasks, rfl, fun _ => id, fun _ => Or.inl⟩ rfl
      · obtain ⟨rfl, rfl⟩ := hnext
        exact .broken cause hasks ⟨_, List.mem_singleton_self _, rfl⟩
      · cases answer with
        | false =>
          obtain ⟨rfl, rfl⟩ := hnext
          exact .refused _ ⟨hasks, rfl, fun _ => id, fun _ => Or.inl⟩ rfl
        | true =>
          have hrest := @ih { checker with record := checker.record.mark lane } after
            (fun other hother => ?_) hnext
          · rw [← Nat.zero_add 1]
            exact Polled.after (learns_mark checker lane) rfl hrest
          · rw [ReadinessRecord.lane_mark, Bool.or_eq_true, beq_iff_eq]
            by_cases heq : other = lane
            · exact Or.inr heq.symm
            · exact Or.inl (hlanes other (List.not_mem_cons_of_ne_of_not_mem heq hother))

/-- Every round goes through all lanes. -/
theorem talk_poll {outcome : Outcome ε (Bool × Checker κ)} (h : checker.poll.Talk log outcome) :
    checker.Polled 1 log outcome := by
  refine talk_pollLanes (fun lane hlane => absurd ?_ hlane) h
  cases lane <;> decide

/-- **The conversation of some rounds**, by induction on their number. -/
theorem talk_rounds {interval : Duration} {rounds : Nat} {outcome : Outcome ε (Bool × Checker κ)}
    (h : (Checker.rounds interval checker rounds).Talk log outcome) :
    checker.Polled rounds log outcome := by
  induction rounds generalizing checker log with
  | zero =>
    obtain ⟨rfl, rfl⟩ := h
    exact .refused checker (.refl checker) rfl
  | succ left ih =>
    cases left with
    | zero => exact talk_poll h
    | succ left =>
      obtain ⟨cause, hpoll, rfl⟩ | ⟨⟨ready, next⟩, before, after, rfl, hpoll, hnext⟩ :=
        Attempt.talk_bind.1 h
      · cases talk_poll hpoll with
        | broken cause asks breakdown => exact .broken cause asks breakdown
      · cases talk_poll hpoll with
        | ready _ learns all =>
          obtain ⟨rfl, rfl⟩ := hnext
          rw [List.append_nil]
          exact .ready next learns all
        | refused _ learns refusals =>
          -- a pause, in which nothing is said, and then the rounds that are left
          rw [Nat.add_comm]
          exact Polled.after learns refusals (ih (Attempt.talk_sleep_bind hnext))

/-- **How a wait can end** whose budget has some attempts. -/
inductive Waited (client : κ) (attempts : Nat) (log : List (Exchange (Clients κ))) :
    Outcome ReadinessError Unit → Prop where
  | ready (asks : Asks client log) (all : ∀ lane, Exchange.caughtUp client lane ∈ log) :
    Waited client attempts log (.ok ())
  | exhausted (cause : ReadinessError) (asks : Asks client log)
    (refusals : log.countP Exchange.isRefusal = attempts) :
    Waited client attempts log (Outcome.failed cause)
  | broken (cause : Crash) (asks : Asks client log)
    (breakdown : ∃ exchange ∈ log, exchange.isBreakdown = true) :
    Waited client attempts log (Outcome.crashed cause)

/-- **What is said while a node is waited for** of which nothing was known. -/
theorem talk_awaitReady {node : String} {client : κ} {budget : PollBudget}
    {outcome : Outcome ReadinessError Unit}
    (h : ((Checker.ofNode node client).awaitReady budget).Talk log outcome) :
    Waited client budget.maxAttempts.toNat log outcome := by
  obtain ⟨cause, hawait, rfl⟩ | ⟨⟨result, last⟩, before, after, rfl, hawait, hresult⟩ :=
    Attempt.talk_bind.1 h
  · obtain ⟨failure, hrounds, hcause⟩ | ⟨⟨ready, next⟩, before, after, rfl, -, hended⟩ :=
      Attempt.talk_bind.1 hawait
    · rw [Except.error.inj hcause]
      cases talk_rounds hrounds with
      | broken cause asks breakdown => exact .broken cause asks breakdown
    · cases ready <;> cases hended.2
  · obtain ⟨failure, -, hcause⟩ | ⟨⟨ready, next⟩, asked, rest, rfl, hrounds, hended⟩ :=
      Attempt.talk_bind.1 hawait
    · cases hcause
    · cases talk_rounds hrounds with
      | ready _ learns all =>
        obtain ⟨rfl, heq⟩ := hended
        obtain ⟨rfl, rfl⟩ := Prod.mk.inj (Except.ok.inj heq)
        obtain ⟨rfl, rfl⟩ := hresult
        rw [List.append_nil, List.append_nil]
        refine .ready learns.asks fun lane => (learns.heard lane (all lane)).resolve_left ?_
        cases lane <;> exact Bool.false_ne_true
      | refused _ learns refusals =>
        obtain ⟨rfl, heq⟩ := hended
        obtain ⟨rfl, rfl⟩ := Prod.mk.inj (Except.ok.inj heq)
        obtain ⟨rfl, rfl⟩ := hresult
        rw [List.append_nil, List.append_nil]
        exact .exhausted _ learns.asks refusals

end Checker

end LedgerNet
