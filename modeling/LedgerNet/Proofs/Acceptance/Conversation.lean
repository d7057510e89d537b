import LedgerNet.Proofs.Acceptance.Polling
import LedgerNet.Proofs.Program.Conversation

/-!
# What is said while a transaction is awaited

A wait asks one question over and over. It ends well right after a reply
that the transaction is accepted, and every reply before that one left the
matter open. However it ends otherwise, at most its last reply was not of
that kind, and nothing was asked after it.
-/

namespace LedgerNet

namespace Exchange

variable {κ : Type}

/-- The call of an exchange with a node. -/
def call (exchange : Exchange (Clients κ)) : Call := exchange.question.2

/-- What a reply says about a transaction, if that was the question. -/
def state? : Exchange (Clients κ) → Option (Outcome ApiError AcceptanceState)
  | ⟨(_, .xStatus _), reply⟩ => some (reply.map XStatus.state)
  | ⟨(_, .pStatus _), reply⟩ => some (reply.map PStatusReply.state)
  | _ => none

/-- **The matter is open** after a reply: the transaction is pending, or the
question failed in a way that may pass. -/
def IsOpen (exchange : Exchange (Clients κ)) : Prop :=
  exchange.state? = some (.ok .pending)
    ∨ ∃ cause : ApiError, exchange.state? = some (Outcome.failed cause)
      ∧ cause.isUnsupported = false

/-- The transaction is accepted. -/
def IsAccepted (exchange : Exchange (Clients κ)) : Prop :=
  exchange.state? = some (.ok .accepted)

end Exchange

namespace Acceptance

variable {κ : Type} {client : κ} {lane : Lane} {tx : TxId} {settings : PollSettings}
  {log : List (Exchange (Clients κ))}

/-- Replies to the question for a transaction that left the matter open. -/
def LeftOpen (client : κ) (lane : Lane) (tx : TxId) (log : List (Exchange (Clients κ))) : Prop :=
  ∀ exchange ∈ log, exchange.question = (client, statusCall tx lane) ∧ exchange.IsOpen

/-- **The transaction was seen to be accepted**, in the last reply. -/
def SeenAccepted (client : κ) (lane : Lane) (tx : TxId) (log : List (Exchange (Clients κ))) :
    Prop :=
  ∃ before last, log = before ++ [last] ∧ LeftOpen client lane tx before
    ∧ last.question = (client, statusCall tx lane) ∧ last.IsAccepted

/-- **The transaction was given up**: after replies that left the matter
open, or after one more that was neither open nor an acceptance. -/
def GivenUp (client : κ) (lane : Lane) (tx : TxId) (log : List (Exchange (Clients κ))) : Prop :=
  ∃ before last, log = before ++ last ∧ LeftOpen client lane tx before
    ∧ (last = [] ∨ ∃ exchange, last = [exchange]
      ∧ exchange.question = (client, statusCall tx lane)
      ∧ ¬ exchange.IsOpen ∧ ¬ exchange.IsAccepted)

/-- A transaction that was seen to be accepted was asked for, and nothing
else. -/
theorem SeenAccepted.asks (h : SeenAccepted client lane tx log) :
    ∀ exchange ∈ log, exchange.question = (client, statusCall tx lane) := by
  obtain ⟨before, last, rfl, hbefore, hlast, -⟩ := h
  intro exchange hmem
  rcases List.mem_append.1 hmem with hmem | hmem
  · exact (hbefore exchange hmem).1
  · rw [List.mem_singleton.1 hmem, hlast]

/-- A transaction that was given up was asked for, and nothing else. -/
theorem GivenUp.asks (h : GivenUp client lane tx log) :
    ∀ exchange ∈ log, exchange.question = (client, statusCall tx lane) := by
  obtain ⟨before, last, rfl, hbefore, hlast⟩ := h
  intro exchange hmem
  rcases List.mem_append.1 hmem with hmem | hmem
  · exact (hbefore exchange hmem).1
  · obtain rfl | ⟨only, rfl, hquestion, -⟩ := hlast
    · exact absurd hmem List.not_mem_nil
    · rw [List.mem_singleton.1 hmem, hquestion]

/-- A question for a transaction is one exchange, and its reply says where
the transaction stands. -/
theorem talk_nodeStatus (hlane : lane ≠ .c) {outcome : Outcome ApiError AcceptanceState}
    (h : (nodeStatus client lane tx).Talk log outcome) :
    ∃ exchange, log = [exchange] ∧ exchange.question = (client, statusCall tx lane)
      ∧ exchange.state? = some outcome := by
  cases lane with
  | x =>
    obtain ⟨reply, hreply, rfl⟩ := Attempt.talk_map.1 h
    exact ⟨_, Attempt.talk_callNode.1 hreply, rfl, rfl⟩
  | p =>
    obtain ⟨reply, hreply, rfl⟩ := Attempt.talk_map.1 h
    exact ⟨_, Attempt.talk_callNode.1 hreply, rfl, rfl⟩
  | c => exact absurd rfl hlane

/-- What a verdict says about the reply that it was passed on. -/
theorem verdict_spec (tx : TxId) (lane : Lane) {exchange : Exchange (Clients κ)}
    {state : Outcome ApiError AcceptanceState} (h : exchange.state? = some state) :
    match verdict tx lane state with
    | .settled => exchange.IsAccepted
    | .undecided _ => exchange.IsOpen
    | .lost _ | .broken _ => ¬ exchange.IsOpen ∧ ¬ exchange.IsAccepted := by
  unfold Exchange.IsOpen Exchange.IsAccepted
  rw [h]
  rcases state with (cause | cause) | state
  · cases cause <;> simp [verdict, Outcome.failed, ApiError.isUnsupported]
  · simp [verdict, Outcome.failed]
  · cases state <;> simp [verdict, Outcome.failed]

/-- How a wait can end, after a conversation. -/
def Waited (client : κ) (lane : Lane) (tx : TxId) (log : List (Exchange (Clients κ)))
    (outcome : Outcome AcceptanceError Unit) : Prop :=
  (outcome = .ok () ∧ SeenAccepted client lane tx log)
    ∨ ∃ cause, outcome = .error cause ∧ GivenUp client lane tx log

/-- A reply that leaves the matter open can stand before any wait. -/
theorem Waited.cons {exchange : Exchange (Clients κ)} {outcome : Outcome AcceptanceError Unit}
    (hquestion : exchange.question = (client, statusCall tx lane)) (hopen : exchange.IsOpen)
    (h : Waited client lane tx log outcome) :
    Waited client lane tx (exchange :: log) outcome := by
  have hcons : ∀ {before}, LeftOpen client lane tx before →
      LeftOpen client lane tx (exchange :: before) := by
    intro before hbefore
    exact List.forall_mem_cons.2 ⟨⟨hquestion, hopen⟩, hbefore⟩
  obtain ⟨rfl, before, last, rfl, hbefore, hlast⟩ | ⟨cause, rfl, before, last, rfl, hbefore, hlast⟩
    := h
  · exact Or.inl ⟨rfl, exchange :: before, last, rfl, hcons hbefore, hlast⟩
  · exact Or.inr ⟨cause, rfl, exchange :: before, last, rfl, hcons hbefore, hlast⟩

/-- A wait that fails without a question is given up. -/
theorem Waited.of_error (cause : Failure AcceptanceError) :
    Waited client lane tx [] (.error cause) :=
  Or.inr ⟨cause, rfl, [], [], rfl, nofun, Or.inl rfl⟩

/-- Between two questions a wait looks at the clock and sleeps: that can only
give it up. The questions that follow are those of `rest`. -/
theorem talk_pause {cause : AcceptanceError} {waited : Duration}
    {rest : Attempt (Timed (Clients κ)) AcceptanceError Unit} {outcome}
    (hrest : ∀ log outcome, rest.Talk log outcome → Waited client lane tx log outcome)
    (h : (do
      let next ← Attempt.ofChecked (waited.plus settings.interval)
      if settings.timeout.nanos < next.nanos then .fail cause
      else
        sleep settings.interval
        rest : Attempt (Timed (Clients κ)) AcceptanceError Unit).Talk log outcome) :
    Waited client lane tx log outcome := by
  obtain ⟨rfl, crash, rfl⟩ | ⟨next, -, h⟩ := (Attempt.Silent.ofChecked _).talk_bind h
  · exact Waited.of_error _
  · split at h
    · obtain ⟨rfl, rfl⟩ := h
      exact Waited.of_error _
    · obtain ⟨rfl, crash, rfl⟩ | ⟨_, -, h⟩ := (Attempt.Silent.sleep _).talk_bind h
      · exact Waited.of_error _
      · exact hrest _ _ h

/-- **The conversation of a wait**, by induction on the questions that are
left. -/
theorem talk_pollFrom (hlane : lane ≠ .c) {begun : Duration} {lastError : Option ApiError}
    {budget : Nat} {outcome : Outcome AcceptanceError Unit}
    (h : (pollFrom (nodeStatus client lane) tx lane settings begun lastError budget).Talk
      log outcome) : Waited client lane tx log outcome := by
  induction budget generalizing lastError log outcome with
  | zero =>
    obtain ⟨rfl, rfl⟩ := h
    exact Waited.of_error _
  | succ budget ih =>
    rw [pollFrom] at h
    obtain ⟨cause, hasked, -⟩ | ⟨state, before, after, rfl, hasked, hnext⟩ :=
      Attempt.talk_bind.1 h
    · obtain ⟨_, -, hnever⟩ := Attempt.talk_outcome.1 hasked
      cases hnever
    · obtain ⟨_, hasked, hstate⟩ := Attempt.talk_outcome.1 hasked
      obtain rfl := Except.ok.inj hstate
      obtain ⟨exchange, rfl, hquestion, hreply⟩ := talk_nodeStatus hlane hasked
      have hspec := verdict_spec tx lane hreply
      have hlast : ¬ exchange.IsOpen ∧ ¬ exchange.IsAccepted →
          GivenUp client lane tx [exchange] := fun hneither =>
        ⟨[], [exchange], rfl, List.forall_mem_nil _,
            Or.inr ⟨exchange, rfl, hquestion, hneither⟩⟩
      rw [List.singleton_append]
      cases hverdict : verdict tx lane state with
      | settled =>
        rw [hverdict] at hspec hnext
        obtain ⟨rfl, rfl⟩ := hnext
        exact Or.inl ⟨rfl, [], exchange, rfl, List.forall_mem_nil _,
          hquestion, hspec⟩
      | lost cause =>
        rw [hverdict] at hspec hnext
        obtain ⟨rfl, rfl⟩ := hnext
        exact Or.inr ⟨_, rfl, hlast hspec⟩
      | broken cause =>
        rw [hverdict] at hspec hnext
        obtain ⟨rfl, rfl⟩ := hnext
        exact Or.inr ⟨_, rfl, hlast hspec⟩
      | undecided cause =>
        rw [hverdict] at hspec hnext
        refine Waited.cons hquestion hspec ?_
        obtain ⟨rfl, crash, rfl⟩ | ⟨now, -, hnext⟩ := Attempt.Silent.elapsed.talk_bind hnext
        · exact Waited.of_error _
        · exact talk_pause (fun _ _ => ih) hnext

/-- **What is said while a transaction is awaited**: it is seen to be
accepted, or it is given up. -/
theorem talk_await (hlane : lane ≠ .c) {outcome : Outcome AcceptanceError Unit}
    (h : (await (nodeStatus client lane) tx lane settings).Talk log outcome) :
    Waited client lane tx log outcome := by
  unfold await at h
  obtain ⟨rfl, crash, rfl⟩ | ⟨begun, -, h⟩ := Attempt.Silent.elapsed.talk_bind h
  · exact Waited.of_error _
  · exact talk_pollFrom hlane h

end Acceptance

end LedgerNet
