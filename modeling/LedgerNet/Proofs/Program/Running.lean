import LedgerNet.Program.Action
import LedgerNet.Program.Timed

/-!
# Running programs that may fail

A program that may fail is a tree like any other, and running it gives an
outcome and what the handler remembers. The equations of this module say what
that is for the ways in which programs are put together: a program after
another runs from where the first one ended, or not at all if that one
failed; wrapping changes the error and nothing else.

The clock of a run is the other subject. When a sleep ends is decided by the
clock, which may round the point in time that was asked for
(`Timeline.handlerOn`). A timeline rounds up to whole milliseconds; a clock
that rounds nothing is the virtual time in which waiting is described.
-/

namespace LedgerNet

universe u

namespace Attempt

variable {I : Interface.{u}} {σ ε δ α β : Type}

/-- **Running a program that may fail**: its outcome, and the memory of the
handler. -/
def runOn (handler : Proc.Handler I σ) (p : Attempt I ε α) (s : σ) : Outcome ε α × σ :=
  Proc.run handler (ExceptT.run p) s

variable {handler : Proc.Handler I σ} {p : Attempt I ε α} {next : α → Attempt I ε β}
  {value : α} {cause : Failure ε} {s s' : σ}

@[simp] theorem runOn_ofChecked (checked : Checked α) :
    (ofChecked checked : Attempt I ε α).runOn handler s = (Outcome.ofChecked checked, s) := rfl

/-- What comes after a program runs from where that one ended. -/
theorem runOn_bind : (p >>= next).runOn handler s
    = match p.runOn handler s with
      | (.ok value, s') => (next value).runOn handler s'
      | (.error cause, s') => (.error cause, s') := by
  unfold runOn
  rw [ExceptT.run_bind, Proc.run_bind]
  rcases Proc.run handler (ExceptT.run p) s with ⟨_ | _, _⟩ <;> rfl

theorem runOn_bind_ok (h : p.runOn handler s = (.ok value, s')) :
    (p >>= next).runOn handler s = (next value).runOn handler s' := by
  rw [runOn_bind, h]

theorem runOn_bind_error (h : p.runOn handler s = (.error cause, s')) :
    (p >>= next).runOn handler s = (.error cause, s') := by
  rw [runOn_bind, h]

@[simp] theorem runOn_map (f : α → β) :
    (f <$> p).runOn handler s = ((p.runOn handler s).1.map f, (p.runOn handler s).2) := by
  rw [← bind_pure_comp, runOn_bind]
  rcases p.runOn handler s with ⟨_ | _, _⟩ <;> rfl

@[simp] theorem runOn_wrap (f : ε → δ) :
    (p.wrap f).runOn handler s
      = ((p.runOn handler s).1.mapError (Failure.map f), (p.runOn handler s).2) :=
  Proc.run_bind handler (ExceptT.run p) _ s

/-- **A wrapped program ends well** where the program does. -/
theorem runOn_wrap_eq_ok_iff {f : ε → δ} :
    (p.wrap f).runOn handler s = (.ok value, s') ↔ p.runOn handler s = (.ok value, s') := by
  rw [runOn_wrap]
  rcases p.runOn handler s with ⟨_ | _, _⟩
  · exact iff_of_false nofun nofun
  · constructor
    · rintro ⟨⟩
      rfl
    · rintro ⟨⟩
      rfl

/-- **A wrapped program fails** where the program does. -/
theorem runOn_wrap_eq_error_iff {f : ε → δ} {failed : Failure δ} :
    (p.wrap f).runOn handler s = (.error failed, s')
      ↔ ∃ cause, p.runOn handler s = (.error cause, s') ∧ failed = cause.map f := by
  rw [runOn_wrap]
  rcases p.runOn handler s with ⟨cause | _, _⟩
  · constructor
    · rintro ⟨⟩
      exact ⟨cause, rfl, rfl⟩
    · rintro ⟨_, ⟨⟩, rfl⟩
      rfl
  · exact iff_of_false nofun nofun

/-- A computation on numbers that has a value takes nothing. -/
theorem runOn_ofChecked_bind {checked : Checked α} (h : checked = .ok value) :
    (ofChecked checked >>= next).runOn handler s = (next value).runOn handler s := by
  subst h
  exact runOn_bind_ok rfl

/-- Looking at an outcome never fails. -/
@[simp] theorem runOn_outcome :
    (p.outcome : Attempt I δ _).runOn handler s
      = (.ok (p.runOn handler s).1, (p.runOn handler s).2) :=
  Proc.run_bind handler (ExceptT.run p) _ s

end Attempt

/-! ## Time -/

namespace Timeline

variable {Q : Interface.{0}} {κ σ ε : Type}

/-- **Answers in time on a clock** that rounds the points at which sleeps
end. -/
def handlerOn (round : Duration → Duration) (answer : Proc.Handler Q σ) :
    Proc.Handler (Timed Q) (Timeline σ)
  | .query question, t =>
    let answered := answer question t.world
    (answered.1, { t with world := answered.2 })
  | .sleep d, t => ((), t.advancedTo (round ⟨t.now.nanos + d.nanos⟩))
  | .elapsed, t => (t.now, t)
  | .timeOfDay, t => (⟨t.epoch.nanos + t.now.nanos⟩, t)

/-- A timeline keeps the time in whole milliseconds. -/
theorem handler_eq_handlerOn (answer : Proc.Handler Q σ) :
    handler answer = handlerOn tick answer := by
  funext op t
  cases op <;> rfl

/-- A sum of whole milliseconds is what the clock of a timeline says it
is. -/
theorem tick_ofMillis_add (n m k : Nat) :
    tick ⟨(Duration.ofMillis n).nanos + k * (Duration.ofMillis m).nanos⟩
      = ⟨(Duration.ofMillis n).nanos + k * (Duration.ofMillis m).nanos⟩ := by
  have h : (⟨(Duration.ofMillis n).nanos + k * (Duration.ofMillis m).nanos⟩ : Duration)
      = Duration.ofMillis (n + k * m) := by
    simp only [Duration.ofMillis, Nat.add_mul, Nat.mul_assoc]
  rw [h, tick_ofMillis]

variable {round : Duration → Duration} {answer : Proc.Handler Q σ} {t : Timeline σ}

@[simp] theorem runOn_elapsed :
    (elapsed : Attempt (Timed Q) ε Duration).runOn (handlerOn round answer) t = (.ok t.now, t) :=
  rfl

@[simp] theorem runOn_timeOfDay :
    (timeOfDay : Attempt (Timed Q) ε Duration).runOn (handlerOn round answer) t
      = (.ok ⟨t.epoch.nanos + t.now.nanos⟩, t) := rfl

@[simp] theorem runOn_sleep (d : Duration) :
    (sleep d : Attempt (Timed Q) ε Unit).runOn (handlerOn round answer) t
      = (.ok (), t.advancedTo (round ⟨t.now.nanos + d.nanos⟩)) := rfl

@[simp] theorem runOn_callNode {answer : Proc.Handler (Clients κ) σ} (client : κ) (call : Call) :
    (callNode client call).runOn (handlerOn round answer) t
      = ((answer (client, call) t.world).1,
        { t with world := (answer (client, call) t.world).2 }) := rfl

end Timeline

end LedgerNet
