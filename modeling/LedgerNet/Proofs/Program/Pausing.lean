import LedgerNet.Proofs.Program.Running

/-!
# Pauses on a clock of whole milliseconds

A timeline rounds up when a sleep ends, so a pause is as long as it was asked
to be, or longer. What it ends at is the least whole millisecond that is not
too early (`Timeline.tick_le_iff`). One pause after another adds the rounding
up: five pauses of 1.4 ms take 10 ms from a whole millisecond, and not 7.

Pauses of whole milliseconds take exactly as long as they say.
-/

namespace LedgerNet

/-- **A whole number of milliseconds.** -/
def Duration.Whole (d : Duration) : Prop :=
  ∃ millis, d = .ofMillis millis

theorem Duration.Whole.add_mul {a b : Duration} (ha : a.Whole) (hb : b.Whole) (n : Nat) :
    Whole ⟨a.nanos + n * b.nanos⟩ := by
  obtain ⟨i, rfl⟩ := ha
  obtain ⟨k, rfl⟩ := hb
  exact ⟨i + n * k, by simp only [ofMillis, Nat.add_mul, Nat.mul_assoc]⟩

namespace Timeline

variable {d now : Duration}

/-- What a clock shows is whole. -/
theorem whole_tick (instant : Duration) : (tick instant).Whole :=
  ⟨_, rfl⟩

/-- What is whole is shown as it is. -/
theorem tick_of_whole (h : d.Whole) : tick d = d := by
  obtain ⟨millis, rfl⟩ := h
  exact tick_ofMillis millis

/-- **The clock shows the first whole millisecond** at or after a point in
time. -/
theorem tick_le_iff {instant limit : Duration} (hlimit : limit.Whole) :
    (tick instant).nanos ≤ limit.nanos ↔ instant.nanos ≤ limit.nanos := by
  obtain ⟨millis, rfl⟩ := hlimit
  show (instant.nanos + (1000000 - 1)) / 1000000 * 1000000 ≤ millis * 1000000 ↔
    instant.nanos ≤ millis * 1000000
  omega

/-- The clock never shows less than the time. -/
theorem le_tick (instant : Duration) : instant.nanos ≤ (tick instant).nanos :=
  (tick_le_iff (whole_tick instant)).1 (Nat.le_refl _)

/-- Whole milliseconds are not rounded. -/
theorem tick_add_of_whole (hnow : now.Whole) :
    tick ⟨now.nanos + d.nanos⟩ = ⟨now.nanos + (tick d).nanos⟩ := by
  obtain ⟨millis, rfl⟩ := hnow
  refine congrArg Duration.mk ?_
  show (millis * 1000000 + d.nanos + (1000000 - 1)) / 1000000 * 1000000
    = millis * 1000000 + (d.nanos + (1000000 - 1)) / 1000000 * 1000000
  omega

/-- When a pause is over, on a clock that never goes back. -/
theorem max_tick (now d : Duration) :
    (⟨max now.nanos (tick ⟨now.nanos + d.nanos⟩).nanos⟩ : Duration)
      = tick ⟨now.nanos + d.nanos⟩ := by
  have hlater : now.nanos ≤ (tick ⟨now.nanos + d.nanos⟩).nanos :=
    Nat.le_trans (Nat.le_add_right _ _) (le_tick ⟨now.nanos + d.nanos⟩)
  exact congrArg Duration.mk (Nat.max_eq_right hlater)

/-! ## One pause after another -/

/-- **The time after some pauses** of one length. -/
def afterPauses (d now : Duration) : Nat → Duration
  | 0 => now
  | n + 1 => tick ⟨(afterPauses d now n).nanos + d.nanos⟩

/-- Pauses are never too short. -/
theorem le_afterPauses (d now : Duration) (n : Nat) :
    now.nanos + n * d.nanos ≤ (afterPauses d now n).nanos := by
  induction n with
  | zero => exact Nat.le_of_eq (congrArg (now.nanos + ·) (Nat.zero_mul _))
  | succ n ih =>
    calc now.nanos + (n + 1) * d.nanos
        = now.nanos + n * d.nanos + d.nanos := by rw [Nat.succ_mul, Nat.add_assoc]
      _ ≤ (afterPauses d now n).nanos + d.nanos := Nat.add_le_add_right ih _
      _ ≤ (afterPauses d now (n + 1)).nanos := le_tick ⟨_⟩

/-- **From a whole millisecond** each pause takes its length, rounded up. -/
theorem afterPauses_of_whole (hnow : now.Whole) (d : Duration) (n : Nat) :
    afterPauses d now n = ⟨now.nanos + n * (tick d).nanos⟩ := by
  induction n with
  | zero => rw [Nat.zero_mul, Nat.add_zero]; rfl
  | succ n ih =>
    have hbefore : Duration.Whole ⟨now.nanos + n * (tick d).nanos⟩ := hnow.add_mul (whole_tick d) n
    show tick ⟨(afterPauses d now n).nanos + d.nanos⟩ = _
    rw [ih, tick_add_of_whole hbefore]
    exact congrArg Duration.mk (by rw [Nat.succ_mul, Nat.add_assoc])

/-- **Pauses of whole milliseconds** take exactly as long as they say. -/
theorem afterPauses_exact (hnow : now.Whole) (hd : d.Whole) (n : Nat) :
    afterPauses d now n = ⟨now.nanos + n * d.nanos⟩ := by
  rw [afterPauses_of_whole hnow, tick_of_whole hd]

example : afterPauses ⟨1400000⟩ .zero 5 = .ofMillis 10 := rfl

end Timeline

end LedgerNet
