import LedgerNet.Proofs.Program.Running

/-!
# Conversations

What a program does whatever it is told is a statement about all of its
conversations: the questions that it asks in a run together with the answers
that it is given, in order. `Proc.Talk` says which conversations a program
can have and what each of them ends with. It lets every question be answered
by anything at all and the clocks show any time, so a property of all
conversations of a program holds of its runs against every node.

The lemmas take the conversation of a composed program apart. One of a
program after another is one of the first followed by one of the second, or
one of the first alone if that failed; this is how conversations are followed
along a program.
-/

namespace LedgerNet

/-- **A question and its answer.** -/
structure Exchange (Q : Interface.{0}) where
  question : Q.Op
  reply : Q.Reply question

variable {Q : Interface.{0}} {σ ε δ α β : Type}

/-- A result is no error. -/
theorem Outcome.ok_ne_failed (value : α) (cause : ε) :
    (Except.ok value : Outcome ε α) ≠ Outcome.failed cause := by
  intro h
  cases h

/-- What an answered request adds to a conversation. The time is not part of
it. -/
def TimedOp.exchanges : (op : TimedOp Q) → op.Reply → List (Exchange Q)
  | query question, reply => [⟨question, reply⟩]
  | sleep _, _ | elapsed, _ | timeOfDay, _ => []

namespace Proc

/-- **The conversations of a program**, and what they end with. -/
def Talk : Proc (Timed Q) α → List (Exchange Q) → α → Prop
  | done value, log, result => log = [] ∧ result = value
  | ask op resume, log, result =>
    ∃ reply rest, log = TimedOp.exchanges op reply ++ rest ∧ (resume reply).Talk rest result

/-- A conversation of a program after another goes through both. -/
theorem talk_bind {p : Proc (Timed Q) α} {next : α → Proc (Timed Q) β} {log : List (Exchange Q)}
    {result : β} : (p >>= next).Talk log result
      ↔ ∃ value before after, log = before ++ after ∧ p.Talk before value
        ∧ (next value).Talk after result := by
  induction p generalizing log with
  | done value =>
    constructor
    · intro h
      exact ⟨value, [], log, rfl, ⟨rfl, rfl⟩, h⟩
    · rintro ⟨_, _, after, rfl, ⟨rfl, rfl⟩, h⟩
      exact h
  | ask op resume ih =>
    constructor
    · rintro ⟨reply, rest, rfl, h⟩
      obtain ⟨value, before, after, rfl, hbefore, hafter⟩ := (ih reply).1 h
      exact ⟨value, _, after, (List.append_assoc _ _ _).symm, ⟨reply, before, rfl, hbefore⟩,
        hafter⟩
    · rintro ⟨value, _, after, rfl, ⟨reply, before, rfl, hbefore⟩, hafter⟩
      exact ⟨reply, before ++ after, List.append_assoc _ _ _,
        (ih reply).2 ⟨value, before, after, rfl, hbefore, hafter⟩⟩

/-! ## Runs on record -/

/-- **The answers with a record** of the questions and of what was
answered. -/
def recorded (answer : Handler Q σ) : Handler Q (σ × List (Exchange Q)) := fun question memory =>
  let answered := answer question memory.1
  (answered.1, (answered.2, memory.2 ++ [⟨question, answered.1⟩]))

/-- **The record of a run is a conversation** of the program, and the run
ends as that conversation does. -/
theorem talk_of_run (answer : Handler Q σ) (p : Proc (Timed Q) α)
    (t : Timeline (σ × List (Exchange Q))) :
    ∃ log, (p.run (Timeline.handler (recorded answer)) t).2.world.2 = t.world.2 ++ log
      ∧ p.Talk log (p.run (Timeline.handler (recorded answer)) t).1 := by
  induction p generalizing t with
  | done value => exact ⟨[], (List.append_nil _).symm, rfl, rfl⟩
  | ask op resume ih =>
    rw [run_ask]
    generalize hanswered : Timeline.handler (recorded answer) op t = answered
    obtain ⟨log, hlog, htalk⟩ := ih answered.1 answered.2
    refine ⟨TimedOp.exchanges op answered.1 ++ log, ?_, answered.1, log, rfl, htalk⟩
    rw [hlog, ← List.append_assoc, ← hanswered]
    cases op with
    | query question => rfl
    | sleep d => exact congrArg (· ++ log) (List.append_nil _).symm
    | elapsed => exact congrArg (· ++ log) (List.append_nil _).symm
    | timeOfDay => exact congrArg (· ++ log) (List.append_nil _).symm

end Proc

namespace Attempt

/-- **The conversations of a program that may fail**, and how they end. -/
def Talk (p : Attempt (Timed Q) ε α) (log : List (Exchange Q)) (outcome : Outcome ε α) : Prop :=
  Proc.Talk (ExceptT.run p) log outcome

variable {p : Attempt (Timed Q) ε α} {next : α → Attempt (Timed Q) ε β} {log : List (Exchange Q)}

/-- **A conversation of a program after another**: the first one fails and
the conversation is over, or both are gone through. -/
theorem talk_bind {outcome : Outcome ε β} : (p >>= next).Talk log outcome
    ↔ (∃ cause, p.Talk log (.error cause) ∧ outcome = .error cause)
      ∨ ∃ value before after, log = before ++ after ∧ p.Talk before (.ok value)
        ∧ (next value).Talk after outcome := by
  unfold Talk
  rw [ExceptT.run_bind, Proc.talk_bind]
  constructor
  · rintro ⟨ended, before, after, rfl, hbefore, hafter⟩
    cases ended with
    | ok value => exact Or.inr ⟨value, before, after, rfl, hbefore, hafter⟩
    | error cause =>
      obtain ⟨rfl, rfl⟩ := hafter
      exact Or.inl ⟨cause, by rwa [List.append_nil], rfl⟩
  · rintro (⟨cause, h, rfl⟩ | ⟨value, before, after, rfl, hbefore, hafter⟩)
    · exact ⟨.error cause, log, [], (List.append_nil _).symm, h, rfl, rfl⟩
    · exact ⟨.ok value, before, after, rfl, hbefore, hafter⟩

/-- What is done to an outcome adds nothing to a conversation. -/
theorem talk_mk_bind {f : Outcome ε α → Outcome δ β} {outcome : Outcome δ β} :
    (ExceptT.mk (ExceptT.run p >>= fun ended => pure (f ended)) : Attempt (Timed Q) δ β).Talk
        log outcome
      ↔ ∃ ended, p.Talk log ended ∧ outcome = f ended := by
  show Proc.Talk (ExceptT.run p >>= fun ended => pure (f ended)) log outcome ↔ _
  rw [Proc.talk_bind]
  constructor
  · rintro ⟨ended, before, after, rfl, hbefore, rfl, rfl⟩
    exact ⟨ended, by rwa [List.append_nil], rfl⟩
  · rintro ⟨ended, h, rfl⟩
    exact ⟨ended, log, [], (List.append_nil _).symm, h, rfl, rfl⟩

theorem talk_wrap {f : ε → δ} {outcome : Outcome δ α} : (p.wrap f).Talk log outcome
    ↔ ∃ ended, p.Talk log ended ∧ outcome = ended.mapError (Failure.map f) :=
  talk_mk_bind

theorem talk_outcome {ended : Outcome δ (Outcome ε α)} :
    (p.outcome : Attempt (Timed Q) δ _).Talk log ended
      ↔ ∃ outcome, p.Talk log outcome ∧ ended = .ok outcome :=
  talk_mk_bind

theorem talk_map {f : α → β} {outcome : Outcome ε β} : (f <$> p).Talk log outcome
    ↔ ∃ ended, p.Talk log ended ∧ outcome = ended.map f := by
  rw [← bind_pure_comp, talk_bind]
  constructor
  · rintro (⟨cause, h, rfl⟩ | ⟨value, before, after, rfl, hbefore, rfl, rfl⟩)
    · exact ⟨.error cause, h, rfl⟩
    · exact ⟨.ok value, by rwa [List.append_nil], rfl⟩
  · rintro ⟨ended, h, rfl⟩
    cases ended with
    | error cause => exact Or.inl ⟨cause, h, rfl⟩
    | ok value => exact Or.inr ⟨value, log, [], (List.append_nil _).symm, h, rfl, rfl⟩

/-- A call is one exchange. -/
theorem talk_callNode {κ : Type} {client : κ} {call : Call}
    {log : List (Exchange (Clients κ))} {outcome : Outcome ApiError call.Result} :
    (callNode client call).Talk log outcome ↔ log = [⟨(client, call), outcome⟩] := by
  constructor
  · rintro ⟨reply, rest, rfl, rfl, rfl⟩
    rfl
  · rintro rfl
    exact ⟨outcome, [], rfl, rfl, rfl⟩

/-! ## Programs that ask nothing -/

/-- **A silent program** asks no question, and fails by a crash if it
fails. -/
def Silent (p : Attempt (Timed Q) ε α) : Prop :=
  ∀ log outcome, p.Talk log outcome → log = [] ∧ ∀ cause, outcome ≠ Outcome.failed cause

namespace Silent

theorem ofChecked (checked : Checked α) :
    Silent (Attempt.ofChecked checked : Attempt (Timed Q) ε α) := by
  rintro log outcome ⟨rfl, rfl⟩
  refine ⟨rfl, fun cause h => ?_⟩
  cases checked <;> cases h

theorem bind (h : Silent p) (hnext : ∀ value, Silent (next value)) : Silent (p >>= next) := by
  intro log outcome htalk
  obtain ⟨cause, hp, rfl⟩ | ⟨value, before, after, rfl, hp, hvalue⟩ := talk_bind.1 htalk
  · refine ⟨(h _ _ hp).1, fun other heq => (h _ _ hp).2 other ?_⟩
    rw [Except.error.inj heq]
    rfl
  · obtain ⟨rfl, -⟩ := h _ _ hp
    exact hnext value _ _ hvalue

/-- **After a silent program** all of the conversation is that of the next
one, unless the silent one crashed. -/
theorem talk_bind (h : Silent p) {outcome : Outcome ε β} (htalk : (p >>= next).Talk log outcome) :
    (log = [] ∧ ∃ cause, outcome = Outcome.crashed cause)
      ∨ ∃ value, p.Talk [] (.ok value) ∧ (next value).Talk log outcome := by
  obtain ⟨cause, hp, rfl⟩ | ⟨value, before, after, rfl, hp, hvalue⟩ := Attempt.talk_bind.1 htalk
  · cases cause with
    | error cause => exact absurd rfl ((h _ _ hp).2 cause)
    | crash cause => exact Or.inl ⟨(h _ _ hp).1, cause, rfl⟩
  · obtain ⟨rfl, -⟩ := h _ _ hp
    exact Or.inr ⟨value, hp, hvalue⟩

theorem elapsed : Silent (LedgerNet.elapsed : Attempt (Timed Q) ε Duration) := by
  rintro log outcome ⟨now, rest, rfl, rfl, rfl⟩
  exact ⟨rfl, Outcome.ok_ne_failed _⟩

theorem timeOfDay : Silent (LedgerNet.timeOfDay : Attempt (Timed Q) ε Duration) := by
  rintro log outcome ⟨now, rest, rfl, rfl, rfl⟩
  exact ⟨rfl, Outcome.ok_ne_failed _⟩

theorem sleep (d : Duration) : Silent (LedgerNet.sleep d : Attempt (Timed Q) ε Unit) := by
  rintro log outcome ⟨_, rest, rfl, rfl, rfl⟩
  exact ⟨rfl, Outcome.ok_ne_failed _⟩

end Silent

end Attempt

end LedgerNet
