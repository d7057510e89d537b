import LedgerNet.Proofs.Program.Scheduling

/-!
# Onlookers

Tasks that only look do not get in each other's way. However they are
interleaved, the time does not pass and the world stays as it is, so each of
them has the value that it has by itself, and nothing is left open to the
scheduler (`Group.Reaches.observed`).

A program that hands over tasks may do other things before and after it. Its
runs are put together from those of its parts, and a part that hands over
nothing has one run, the one it has by itself (`Concurrent.runs_lift`).
-/

namespace LedgerNet

universe u

variable {Q : Interface.{0}} {σ τ ε δ α β : Type} {answer : Proc.Handler Q σ}

/-! ## Groups -/

namespace Group

/-- **A member that looks on**: it is awake, and all that its program does is
to look, until it has a value. -/
def Member.LooksOn (answer : Proc.Handler Q σ) (t : Timeline σ) (member : Member Q β) (value : β) :
    Prop :=
  member.thread.wake = t.now ∧ Proc.Observes answer t.world member.thread.rest value

variable {m next : Moment Q β σ} {t : Timeline σ} {values : List β}

/-- In a step among onlookers nothing happens but that one of them goes on
looking. -/
theorem Step.looksOn (hstep : Step answer m next) (htime : m.time = t)
    (h : List.Forall₂ (Member.LooksOn answer t) m.members values) :
    next.time = t ∧ List.Forall₂ (Member.LooksOn answer t) next.members values := by
  cases hstep with
  | turn before member after time op resume rest_eq awake =>
    obtain rfl : time = t := htime
    obtain ⟨front, value, back, rfl, hfront, ⟨hwake, hobserves⟩, hback⟩ :=
      forall₂_append_cons.1 h.flip
    rw [rest_eq] at hobserves
    cases hobserves with
    | @query question _ _ unchanged rest =>
      have hsame : (Thread.instantHandler answer (.query question) time).2 = time := by
        show { time with world := (answer question time.world).2 } = time
        rw [unchanged]
      exact ⟨hsame, (forall₂_append_cons.2 ⟨front, value, back, rfl, hfront, ⟨rfl, rest⟩,
        hback⟩).flip⟩
  | pass members time sleeper mem asleep idle =>
    -- nobody sleeps
    obtain rfl : time = t := htime
    obtain ⟨before, after, rfl⟩ := List.append_of_mem mem
    obtain ⟨_, _, _, -, -, ⟨hwake, -⟩, -⟩ := forall₂_append_cons.1 h.flip
    rw [hwake] at asleep
    exact absurd asleep (lt_irrefl _)

theorem Reaches.looksOn (hreaches : Reaches answer m next) (htime : m.time = t)
    (h : List.Forall₂ (Member.LooksOn answer t) m.members values) :
    next.time = t ∧ List.Forall₂ (Member.LooksOn answer t) next.members values := by
  induction hreaches with
  | refl => exact ⟨htime, h⟩
  | tail _ hstep ih => exact hstep.looksOn ih.1 ih.2

/-- **Onlookers see what they would see by themselves**, and no time passes,
however they are interleaved. -/
theorem Reaches.observed {programs : List (Proc (Timed Q) β)} {last : Moment Q β σ}
    (hreaches : Reaches answer (Moment.start programs t) last) (hover : last.Over)
    (h : List.Forall₂ (Proc.Observes answer t.world) programs values) :
    last.time = t ∧ last.ended.map Prod.snd = values := by
  have hstart : List.Forall₂ (Member.LooksOn answer t) (Moment.start programs t).members
      values := by
    unfold Moment.start Group.start
    rw [List.map_map, List.forall₂_map_left_iff]
    exact h.imp fun program value hprogram => ⟨rfl, hprogram⟩
  obtain ⟨htime, hmembers⟩ := hreaches.looksOn rfl hstart
  refine ⟨htime, ?_⟩
  have hended : List.Forall₂ (fun value ended => ended.2 = value) values last.ended := by
    refine Moment.forall₂_ended hover.done hmembers.flip fun value member ended hlooks hdone => ?_
    have hobserves := hlooks.2
    rw [hdone] at hobserves
    cases hobserves
    rfl
  rw [← List.forall₂_eq_eq_eq, List.forall₂_map_left_iff]
  exact hended.flip

end Group

/-! ## Runs of programs -/

/-- The runs of one program after another. -/
theorem Proc.runs_bind {I : Interface.{u}} {answers : Proc.Answers I τ} {p : Proc I α}
    {next : α → Proc I β} {s : τ} {ended : β × τ} :
    (p >>= next).Runs answers s ended
      ↔ ∃ between, p.Runs answers s between ∧ (next between.1).Runs answers between.2 ended := by
  induction p generalizing s with
  | done value =>
    constructor
    · exact fun h => ⟨_, rfl, h⟩
    · rintro ⟨_, rfl, h⟩
      exact h
  | ask op resume ih =>
    constructor
    · rintro ⟨answered, hanswered, hrest⟩
      obtain ⟨between, hbetween, hnext⟩ := (ih _).1 hrest
      exact ⟨between, ⟨answered, hanswered, hbetween⟩, hnext⟩
    · rintro ⟨between, ⟨answered, hanswered, hbetween⟩, hnext⟩
      exact ⟨answered, hanswered, (ih _).2 ⟨between, hbetween, hnext⟩⟩

namespace Attempt

variable {I : Interface.{u}} {answers : Proc.Answers I τ} {p : Attempt I ε α} {s : τ}

/-- What comes after a program that succeeds in its only run. -/
theorem runs_bind_ok {next : α → Attempt I ε β} {value : α} {s' : τ} {ended : Outcome ε β × τ}
    (h : ∀ between, p.Runs answers s between ↔ between = (.ok value, s')) :
    (p >>= next).Runs answers s ended ↔ (next value).Runs answers s' ended := by
  unfold Attempt.Runs at h ⊢
  rw [ExceptT.run_bind, Proc.runs_bind]
  constructor
  · rintro ⟨between, hbetween, hnext⟩
    obtain rfl := (h between).1 hbetween
    exact hnext
  · exact fun hnext => ⟨_, (h _).2 rfl, hnext⟩

/-- The runs of a program with its errors wrapped. -/
theorem runs_wrap {f : ε → δ} {ended : Outcome δ α × τ} :
    (p.wrap f).Runs answers s ended
      ↔ ∃ inner, p.Runs answers s (inner, ended.2)
        ∧ ended.1 = inner.mapError (Failure.map f) := by
  obtain ⟨outcome, after⟩ := ended
  show (ExceptT.run p >>= _).Runs answers s (outcome, after) ↔ _
  rw [Proc.runs_bind]
  constructor
  · rintro ⟨⟨inner, last⟩, hinner, hrest⟩
    obtain ⟨rfl, rfl⟩ : outcome = inner.mapError (Failure.map f) ∧ after = last :=
      Prod.mk.inj hrest
    exact ⟨inner, hinner, rfl⟩
  · rintro ⟨inner, hinner, rfl⟩
    exact ⟨(inner, after), hinner, rfl⟩

end Attempt

/-- **A program that hands over nothing has one run**, whatever the scheduler
does: the one that it has by itself. -/
theorem Concurrent.runs_lift {p : Attempt (Timed Q) ε α} {s : Chronicle Q σ}
    {ended : Outcome ε α × Chronicle Q σ} :
    (Concurrent.lift p).Runs (Concurrent.Answers answer) s ended
      ↔ ended = ((p.runOn (Timeline.handler answer) s.time).1,
        { s with time := (p.runOn (Timeline.handler answer) s.time).2 }) := by
  unfold Attempt.Runs Concurrent.lift Attempt.runOn
  generalize ExceptT.run p = program
  rw [ExceptT.run_mk]
  induction program generalizing s with
  | done value => exact Iff.rfl
  | ask op resume ih =>
    constructor
    · rintro ⟨_, rfl, hrest⟩
      exact (ih _).1 hrest
    · intro hended
      exact ⟨_, rfl, (ih _).2 hended⟩

end LedgerNet
