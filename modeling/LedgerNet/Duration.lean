import LedgerNet.Number.Checked

/-!
# Durations

A duration is a whole number of nanoseconds. The longest one is a
nanosecond short of `2 ^ 64` seconds; a sum or a multiple beyond it is an
overflow. Nothing here rounds: a fifth of a timeout keeps its nanoseconds,
and it is the clock that decides when a sleep of it ends.
-/

namespace LedgerNet

/-- A length of time. -/
structure Duration where
  /-- How many nanoseconds long it is. -/
  nanos : Nat
  deriving DecidableEq, Repr, Inhabited

namespace Duration

/-- Nanoseconds in a second. -/
def nanosPerSecond : Nat := 1000000000

/-- Nanoseconds in a millisecond. -/
def nanosPerMilli : Nat := 1000000

/-- The first number of nanoseconds that is too long. -/
def limit : Nat := 2 ^ 64 * nanosPerSecond

/-- No time at all. -/
def zero : Duration := ⟨0⟩

def ofSeconds (seconds : Nat) : Duration := ⟨seconds * nanosPerSecond⟩

def ofMillis (millis : Nat) : Duration := ⟨millis * nanosPerMilli⟩

/-- Whole seconds; the rest is dropped. -/
def seconds (d : Duration) : Nat := d.nanos / nanosPerSecond

/-- Whole milliseconds; the rest is dropped. -/
def millis (d : Duration) : Nat := d.nanos / nanosPerMilli

/-- **The sum of two durations**, if it is not too long. -/
def plus (a b : Duration) : Checked Duration :=
  if a.nanos + b.nanos < limit then .ok ⟨a.nanos + b.nanos⟩ else .error .durationSum

/-- **A multiple of a duration**, if it is not too long. -/
def times (d : Duration) (factor : Nat) : Checked Duration :=
  if d.nanos * factor < limit then .ok ⟨d.nanos * factor⟩ else .error .durationProduct

/-- The first number of nanoseconds that lies beyond every point in time. -/
def instantLimit : Nat := 2 ^ 63 * nanosPerSecond

/-- **A point in time, a duration later.** Points in time end sooner than
durations do. -/
def later (instant d : Duration) : Checked Duration :=
  if instant.nanos + d.nanos < instantLimit then .ok ⟨instant.nanos + d.nanos⟩
  else .error .instantSum

/-- How much longer one duration is than another; zero if it is not. -/
def minusOrZero (a b : Duration) : Duration := ⟨a.nanos - b.nanos⟩

/-- A fifth of a duration, down to the nanosecond. -/
def fifth (d : Duration) : Duration := ⟨d.nanos / 5⟩

theorem plus_eq_ok_iff {a b c : Duration} :
    a.plus b = .ok c ↔ a.nanos + b.nanos < limit ∧ c = ⟨a.nanos + b.nanos⟩ := by
  unfold plus
  split <;> rename_i h <;> simp [h, eq_comm]

theorem later_eq_ok_iff {a b c : Duration} :
    a.later b = .ok c ↔ a.nanos + b.nanos < instantLimit ∧ c = ⟨a.nanos + b.nanos⟩ := by
  unfold later
  split <;> rename_i h <;> simp [h, eq_comm]

/-! ## Text

The largest unit of which the duration holds at least one, with as many
decimals as it takes to lose nothing. -/

/-- The decimals of a fraction that counts in units of `1 / 10 ^ places`,
without the zeros at the end; nothing for a fraction of zero. -/
def decimals (places fraction : Nat) : List Char :=
  if fraction = 0 then []
  else
    let digits := Nat.toDigits 10 fraction
    let padded := List.replicate (places - digits.length) '0' ++ digits
    '.' :: (padded.reverse.dropWhile (· == '0')).reverse

/-- A number of nanoseconds in a unit of `10 ^ places` of them. -/
def inUnit (nanos places : Nat) (name : String) : String :=
  toString (nanos / 10 ^ places) ++ String.ofList (decimals places (nanos % 10 ^ places)) ++ name

/-- **A duration for people**: `30s`, `1.5s`, `999ms`, `1.5ms`, `0ns`. -/
def text (d : Duration) : String :=
  if 1000000000 ≤ d.nanos then inUnit d.nanos 9 "s"
  else if 1000000 ≤ d.nanos then inUnit d.nanos 6 "ms"
  else if 1000 ≤ d.nanos then inUnit d.nanos 3 "µs"
  else inUnit d.nanos 0 "ns"

end Duration

end LedgerNet
