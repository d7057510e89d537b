import LedgerNet.Proofs.Program.Acting

/-!
# Journals

A journal is the list of the requests that a program made, each with the
answer to it. `Proc.Journals` says which journals a program can have and what
each of them ends with. It is indifferent to who answers: any answer may be
given to any request, so a property of all journals of a program is a property
of all of its runs, whatever happens in them. That a run has one of these
journals is `Proc.journals_run`.

As with other readings of a program, what remains is to take the journal of a
composed program apart. A journal of one program after another is a journal
of the first followed by one of the second; where programs may fail, the first
one may have been all.
-/

namespace LedgerNet

variable {I : Interface.{0}} {σ τ ε δ α β : Type}

namespace Proc

/-- **A request that was made**, with the answer to it. -/
abbrev Entry (I : Interface.{0}) := (op : I.Op) × I.Reply op

/-- **Answers with a journal** of all requests, in their order. -/
def journaled (handler : Handler I σ) : Handler I (σ × List (Entry I)) := fun op memory =>
  let answered := handler op memory.1
  (answered.1, (answered.2, memory.2 ++ [⟨op, answered.1⟩]))

/-- **The journals of a program**, and what they end with. -/
def Journals : Proc I α → List (Entry I) → α → Prop
  | done value, journal, result => journal = [] ∧ result = value
  | ask op resume, journal, result =>
    ∃ reply rest, journal = ⟨op, reply⟩ :: rest ∧ (resume reply).Journals rest result

/-- A journal of a program after another goes through both. -/
theorem journals_bind {p : Proc I α} {next : α → Proc I β} {journal : List (Entry I)}
    {result : β} : (p >>= next).Journals journal result
      ↔ ∃ value before after, journal = before ++ after ∧ p.Journals before value
        ∧ (next value).Journals after result := by
  induction p generalizing journal with
  | done value =>
    constructor
    · intro h
      exact ⟨value, [], journal, rfl, ⟨rfl, rfl⟩, h⟩
    · rintro ⟨_, _, after, rfl, ⟨rfl, rfl⟩, h⟩
      exact h
  | ask op resume ih =>
    constructor
    · rintro ⟨reply, rest, rfl, h⟩
      obtain ⟨value, before, after, rfl, hbefore, hafter⟩ := (ih reply).1 h
      exact ⟨value, _, after, rfl, ⟨reply, before, rfl, hbefore⟩, hafter⟩
    · rintro ⟨value, _, after, rfl, ⟨reply, before, rfl, hbefore⟩, hafter⟩
      exact ⟨reply, before ++ after, rfl,
        (ih reply).2 ⟨value, before, after, rfl, hbefore, hafter⟩⟩

/-- **A run has a journal** of its program, and ends as that journal does. -/
theorem journals_run (handler : Handler I σ) (p : Proc I α) (s : σ)
    (written : List (Entry I)) :
    ∃ journal, (p.run (journaled handler) (s, written)).2.2 = written ++ journal
      ∧ p.Journals journal (p.run (journaled handler) (s, written)).1 := by
  induction p generalizing s written with
  | done value => exact ⟨[], (List.append_nil _).symm, rfl, rfl⟩
  | ask op resume ih =>
    rw [run_ask]
    obtain ⟨journal, hwritten, hjournal⟩ :=
      ih (handler op s).1 (handler op s).2 (written ++ [⟨op, (handler op s).1⟩])
    refine ⟨⟨op, (handler op s).1⟩ :: journal, ?_, _, journal, rfl, hjournal⟩
    rw [List.append_cons]
    exact hwritten

end Proc

/-! ## Programs that may fail -/

namespace Attempt

/-- **The journals of a program that may fail**, and how they end. -/
def Journals (p : Attempt I ε α) (journal : List (Proc.Entry I)) (outcome : Outcome ε α) : Prop :=
  Proc.Journals (ExceptT.run p) journal outcome

variable {p : Attempt I ε α} {next : α → Attempt I ε β} {journal : List (Proc.Entry I)}

/-- **A journal of a program after another**: the first one fails and that is
all, or both are gone through. -/
theorem journals_bind {outcome : Outcome ε β} : (p >>= next).Journals journal outcome
    ↔ (∃ cause, p.Journals journal (.error cause) ∧ outcome = .error cause)
      ∨ ∃ value before after, journal = before ++ after ∧ p.Journals before (.ok value)
        ∧ (next value).Journals after outcome := by
  unfold Journals
  rw [ExceptT.run_bind, Proc.journals_bind]
  constructor
  · rintro ⟨ended, before, after, rfl, hbefore, hafter⟩
    cases ended with
    | ok value => exact Or.inr ⟨value, before, after, rfl, hbefore, hafter⟩
    | error cause =>
      obtain ⟨rfl, rfl⟩ := hafter
      exact Or.inl ⟨cause, by rwa [List.append_nil], rfl⟩
  · rintro (⟨cause, h, rfl⟩ | ⟨value, before, after, rfl, hbefore, hafter⟩)
    · exact ⟨.error cause, journal, [], (List.append_nil _).symm, h, rfl, rfl⟩
    · exact ⟨.ok value, before, after, rfl, hbefore, hafter⟩

theorem journals_ofOutcome {ended outcome : Outcome ε α} :
    (ofOutcome ended : Attempt I ε α).Journals journal outcome
      ↔ journal = [] ∧ outcome = ended :=
  Iff.rfl

/-- What is done to an outcome is no request. -/
theorem journals_mk_bind {f : Outcome ε α → Outcome δ β} {outcome : Outcome δ β} :
    (ExceptT.mk (ExceptT.run p >>= fun ended => pure (f ended)) : Attempt I δ β).Journals
        journal outcome
      ↔ ∃ ended, p.Journals journal ended ∧ outcome = f ended := by
  show Proc.Journals (ExceptT.run p >>= fun ended => pure (f ended)) journal outcome ↔ _
  rw [Proc.journals_bind]
  constructor
  · rintro ⟨ended, before, after, rfl, hbefore, rfl, rfl⟩
    exact ⟨ended, by rwa [List.append_nil], rfl⟩
  · rintro ⟨ended, h, rfl⟩
    exact ⟨ended, journal, [], (List.append_nil _).symm, h, rfl, rfl⟩

theorem journals_wrap {f : ε → δ} {outcome : Outcome δ α} : (p.wrap f).Journals journal outcome
    ↔ ∃ ended, p.Journals journal ended ∧ outcome = ended.mapError (Failure.map f) :=
  journals_mk_bind

/-- A program that cannot fail ends well. -/
theorem journals_ofProc {p : Proc I α} {outcome : Outcome ε α} :
    (ofProc p : Attempt I ε α).Journals journal outcome
      ↔ ∃ value, p.Journals journal value ∧ outcome = .ok value := by
  show Proc.Journals (p >>= fun value => pure (Except.ok value)) journal outcome ↔ _
  rw [Proc.journals_bind]
  constructor
  · rintro ⟨value, before, after, rfl, hbefore, rfl, rfl⟩
    exact ⟨value, by rwa [List.append_nil], rfl⟩
  · rintro ⟨value, h, rfl⟩
    exact ⟨value, journal, [], (List.append_nil _).symm, h, rfl, rfl⟩

/-- A program that cannot fail, and what comes after it. -/
theorem journals_ofProc_bind {p : Proc I α} {outcome : Outcome ε β} :
    (ofProc p >>= next).Journals journal outcome
      ↔ ∃ value before after, journal = before ++ after ∧ p.Journals before value
        ∧ (next value).Journals after outcome := by
  rw [journals_bind]
  constructor
  · rintro (⟨cause, h, -⟩ | ⟨value, before, after, rfl, hbefore, hafter⟩)
    · obtain ⟨_, -, hnever⟩ := journals_ofProc.1 h
      cases hnever
    · obtain ⟨_, hvalue, heq⟩ := journals_ofProc.1 hbefore
      cases heq
      exact ⟨value, before, after, rfl, hvalue, hafter⟩
  · rintro ⟨value, before, after, rfl, hbefore, hafter⟩
    exact Or.inr ⟨value, before, after, rfl, journals_ofProc.2 ⟨value, hbefore, rfl⟩, hafter⟩

/-- A number that can be counted is no request. -/
theorem journals_counted_bind {value : α} {outcome : Outcome ε β} :
    (ofChecked (.ok value) >>= next).Journals journal outcome
      ↔ (next value).Journals journal outcome :=
  Iff.rfl

/-- A number that cannot be counted is the end. -/
theorem journals_uncounted_bind {cause : Overflow} {outcome : Outcome ε β} :
    (ofChecked (.error cause) >>= next).Journals journal outcome
      ↔ journal = [] ∧ outcome = Outcome.crashed (.overflow cause) :=
  Iff.rfl

/-- A request whose answer is taken as it is, and what comes after it. -/
theorem journals_request_bind {op : I.Op} {next : I.Reply op → Attempt I ε β}
    {outcome : Outcome ε β} :
    (ofProc (Proc.ask op Proc.done) >>= next).Journals journal outcome
      ↔ ∃ reply rest, journal = ⟨op, reply⟩ :: rest ∧ (next reply).Journals rest outcome :=
  Iff.rfl

/-- The journal of a run of a program that may fail. -/
theorem journals_runOn (handler : Proc.Handler I σ) (p : Attempt I ε α) (s : σ)
    (written : List (Proc.Entry I)) :
    ∃ journal, (p.runOn (Proc.journaled handler) (s, written)).2.2 = written ++ journal
      ∧ p.Journals journal (p.runOn (Proc.journaled handler) (s, written)).1 :=
  Proc.journals_run handler (ExceptT.run p) s written

end Attempt

/-! ## Programs that change something -/

namespace Action

/-- **The journals of an action from a state**: how it ends after one, and in
which state. -/
def Journals (p : Action σ I ε α) (s : σ) (journal : List (Proc.Entry I))
    (outcome : Outcome ε α) (left : σ) : Prop :=
  Proc.Journals (p.start s) journal (outcome, left)

variable {p : Action σ I ε α} {next : α → Action σ I ε β} {s left : σ}
  {journal : List (Proc.Entry I)}

/-- **A journal of an action after another**: the first one fails and that is
all, or both are gone through. -/
theorem journals_bind {outcome : Outcome ε β} : (p >>= next).Journals s journal outcome left
    ↔ (∃ cause, p.Journals s journal (.error cause) left ∧ outcome = .error cause)
      ∨ ∃ value between before after, journal = before ++ after
        ∧ p.Journals s before (.ok value) between
        ∧ (next value).Journals between after outcome left := by
  unfold Journals start
  rw [ExceptT.run_bind, StateT.run_bind, Proc.journals_bind]
  constructor
  · rintro ⟨⟨ended, between⟩, before, after, rfl, hbefore, hafter⟩
    cases ended with
    | ok value => exact Or.inr ⟨value, between, before, after, rfl, hbefore, hafter⟩
    | error cause =>
      obtain ⟨rfl, hended⟩ := hafter
      obtain ⟨rfl, rfl⟩ := Prod.mk.inj hended
      exact Or.inl ⟨cause, by rwa [List.append_nil], rfl⟩
  · rintro (⟨cause, h, rfl⟩ | ⟨value, between, before, after, rfl, hbefore, hafter⟩)
    · exact ⟨(.error cause, left), journal, [], (List.append_nil _).symm, h, rfl, rfl⟩
    · exact ⟨(.ok value, between), before, after, rfl, hbefore, hafter⟩

theorem journals_ofOutcome {ended outcome : Outcome ε α} :
    (ofOutcome ended : Action σ I ε α).Journals s journal outcome left
      ↔ journal = [] ∧ outcome = ended ∧ left = s := by
  constructor
  · rintro ⟨rfl, h⟩
    obtain ⟨rfl, rfl⟩ := Prod.mk.inj h
    exact ⟨rfl, rfl, rfl⟩
  · rintro ⟨rfl, rfl, rfl⟩
    exact ⟨rfl, rfl⟩

theorem journals_pure {value : α} {outcome : Outcome ε α} :
    (pure value : Action σ I ε α).Journals s journal outcome left
      ↔ journal = [] ∧ outcome = .ok value ∧ left = s :=
  journals_ofOutcome

theorem journals_fail {cause : ε} {outcome : Outcome ε α} :
    (fail cause : Action σ I ε α).Journals s journal outcome left
      ↔ journal = [] ∧ outcome = Outcome.failed cause ∧ left = s :=
  journals_ofOutcome

/-- Looking at the state is no request. -/
theorem journals_state_bind {next : σ → Action σ I ε β} {outcome : Outcome ε β} :
    (state >>= next).Journals s journal outcome left
      ↔ (next s).Journals s journal outcome left :=
  Iff.rfl

/-- Changing the state is no request. -/
theorem journals_change_bind {f : σ → σ} {next : Unit → Action σ I ε β}
    {outcome : Outcome ε β} :
    (change f >>= next).Journals s journal outcome left
      ↔ (next ()).Journals (f s) journal outcome left :=
  Iff.rfl

/-- A program that does not touch the state has the journals that it has by
itself. -/
theorem journals_lift {p : Attempt I ε α} {outcome : Outcome ε α} :
    (lift p : Action σ I ε α).Journals s journal outcome left
      ↔ left = s ∧ p.Journals journal outcome := by
  show Proc.Journals (ExceptT.run p >>= fun ended => pure (ended, s)) journal (outcome, left) ↔ _
  rw [Proc.journals_bind]
  constructor
  · rintro ⟨ended, before, after, rfl, hbefore, rfl, hended⟩
    obtain ⟨rfl, rfl⟩ := Prod.mk.inj hended
    exact ⟨rfl, by rwa [List.append_nil]⟩
  · rintro ⟨rfl, h⟩
    exact ⟨outcome, journal, [], (List.append_nil _).symm, h, rfl, rfl⟩

/-- The outcome of an action, looked at, is no failure. -/
theorem journals_outcome {outcome : Outcome δ (Outcome ε α)} :
    (p.outcome : Action σ I δ _).Journals s journal outcome left
      ↔ ∃ ended, p.Journals s journal ended left ∧ outcome = .ok ended := by
  show Proc.Journals (p.start s >>= fun ended => pure (Except.ok ended.1, ended.2)) journal
    (outcome, left) ↔ _
  rw [Proc.journals_bind]
  constructor
  · rintro ⟨⟨ended, between⟩, before, after, rfl, hbefore, rfl, hended⟩
    obtain ⟨rfl, rfl⟩ := Prod.mk.inj hended
    exact ⟨ended, by rwa [List.append_nil], rfl⟩
  · rintro ⟨ended, h, rfl⟩
    exact ⟨(ended, left), journal, [], (List.append_nil _).symm, h, rfl, rfl⟩

/-- The journal of a run of an action. -/
theorem journals_runOn {τ : Type} (handler : Proc.Handler I τ) (p : Action σ I ε α) (s : σ) (t : τ)
    (written : List (Proc.Entry I)) :
    ∃ journal, (p.runOn (Proc.journaled handler) s (t, written)).2.2 = written ++ journal
      ∧ p.Journals s journal (p.runOn (Proc.journaled handler) s (t, written)).1.1
        (p.runOn (Proc.journaled handler) s (t, written)).1.2 :=
  Proc.journals_run handler (p.start s) t written

end Action

end LedgerNet
