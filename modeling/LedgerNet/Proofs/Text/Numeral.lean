import LedgerNet.Text.Numeral
import Mathlib.Data.List.Forall2
import Mathlib.Data.Nat.Digits.Defs
import Mathlib.Tactic.IntervalCases
import Mathlib.Tactic.Ring

/-!
# What digits denote

A number is read digit by digit, from the left. What the digits denote is
said here without reading them (`Denotes`): each digit has its value, and the
values are the places of the number in its base. The reader finds that number
and nothing else, so what it accepts can be told as a grammar
(`unsigned?_eq_some_iff`): an optional plus sign, then at least one digit, and
the number below the bound. However many zeros lead, they are no matter.
-/

namespace LedgerNet.Text

variable {base bound start n value : Nat} {c : Char} {cs digits : List Char}

/-- **A digit of a base and its value.** The letters after nine may be in
either case. -/
def IsDigit (base : Nat) (c : Char) (value : Nat) : Prop :=
  value < base ∧ ("0123456789abcdef".toList[value]? = some c
    ∨ "0123456789ABCDEF".toList[value]? = some c)

/-- **What digits denote** in a base: at least one of them, the first one in
the highest place. -/
def Denotes (base : Nat) (digits : List Char) (n : Nat) : Prop :=
  digits ≠ [] ∧ ∃ values, List.Forall₂ (IsDigit base) digits values
    ∧ n = Nat.ofDigits base values.reverse

/-! ## One digit -/

/-- A character between two others, by its number. -/
theorem exists_ofNat_of_between {low high : Char} (hlow : low ≤ c) (hhigh : c ≤ high) :
    ∃ k, low.toNat ≤ k ∧ k ≤ high.toNat ∧ c = Char.ofNat k :=
  ⟨c.toNat, hlow, hhigh, (Char.ofNat_toNat c).symm⟩

/-- The value of a digit is its place in the list of digits, of one case or the
other. -/
theorem digitValue_eq_some_iff :
    digitValue c = some value ↔ "0123456789abcdef".toList[value]? = some c
      ∨ "0123456789ABCDEF".toList[value]? = some c := by
  constructor
  · intro h
    unfold digitValue at h
    split at h
    · rename_i hdecimal
      obtain ⟨k, hlow, hhigh, rfl⟩ := exists_ofNat_of_between hdecimal.1 hdecimal.2
      obtain rfl := Option.some.inj h
      change 48 ≤ k at hlow
      change k ≤ 57 at hhigh
      interval_cases k <;> exact Or.inl rfl
    · split at h
      · rename_i hlower
        obtain ⟨k, hlow, hhigh, rfl⟩ := exists_ofNat_of_between hlower.1 hlower.2
        obtain rfl := Option.some.inj h
        change 97 ≤ k at hlow
        change k ≤ 102 at hhigh
        interval_cases k <;> exact Or.inl rfl
      · split at h
        · rename_i hupper
          obtain ⟨k, hlow, hhigh, rfl⟩ := exists_ofNat_of_between hupper.1 hupper.2
          obtain rfl := Option.some.inj h
          change 65 ≤ k at hlow
          change k ≤ 70 at hhigh
          interval_cases k <;> exact Or.inr rfl
        · cases h
  · intro h
    have hlt : value < 16 := by
      rcases h with h | h
      · exact (List.getElem?_eq_some_iff.1 h).1
      · exact (List.getElem?_eq_some_iff.1 h).1
    rcases h with h | h
    all_goals
      interval_cases value
      all_goals
        obtain rfl := Option.some.inj h
        rfl

theorem digit?_eq_some_iff : digit? base c = some value ↔ IsDigit base c value := by
  unfold digit? IsDigit
  rw [Option.filter_eq_some_iff, digitValue_eq_some_iff, decide_eq_true_iff, and_comm]

/-- A plus sign is no digit. -/
theorem IsDigit.ne_plus (h : IsDigit base c value) : c ≠ '+' := by
  rintro rfl
  exact absurd (digitValue_eq_some_iff.2 h.2) nofun

/-! ## Many digits -/

/-- **Digits that go on from a number** that was read before them. -/
theorem digitsFrom_eq_some_iff : digitsFrom base start cs = some n
    ↔ ∃ values, List.Forall₂ (IsDigit base) cs values
      ∧ n = start * base ^ cs.length + Nat.ofDigits base values.reverse := by
  induction cs generalizing start with
  | nil =>
    simp only [digitsFrom, List.forall₂_nil_left_iff, exists_eq_left, List.reverse_nil,
      Nat.ofDigits_nil, List.length_nil, Nat.pow_zero, Nat.mul_one, Nat.add_zero,
      Option.some.injEq]
    exact eq_comm
  | cons c rest ih =>
    have hstep : digitsFrom base start (c :: rest) = some n
        ↔ ∃ value, IsDigit base c value
          ∧ digitsFrom base (start * base + value) rest = some n := by
      simp only [digitsFrom, Option.bind_eq_bind, Option.bind_eq_some_iff, digit?_eq_some_iff]
    -- the first digit stands before as many places as there are digits after it
    have hplace : ∀ value (values : List Nat), List.Forall₂ (IsDigit base) rest values →
        (start * base + value) * base ^ rest.length + Nat.ofDigits base values.reverse
          = start * base ^ (c :: rest).length + Nat.ofDigits base (value :: values).reverse := by
      intro value values hvalues
      rw [List.reverse_cons, Nat.ofDigits_append, Nat.ofDigits_singleton, List.length_reverse,
        ← hvalues.length_eq, List.length_cons, Nat.pow_succ]
      ring
    rw [hstep]
    constructor
    · rintro ⟨value, hdigit, hrest⟩
      obtain ⟨values, hvalues, rfl⟩ := ih.1 hrest
      exact ⟨value :: values, .cons hdigit hvalues, hplace value values hvalues⟩
    · rintro ⟨_, hall, rfl⟩
      obtain ⟨value, values, hdigit, hvalues, rfl⟩ := List.forall₂_cons_left_iff.1 hall
      exact ⟨value, hdigit, ih.2 ⟨values, hvalues, (hplace value values hvalues).symm⟩⟩

theorem digits?_eq_some_iff : digits? base cs = some n ↔ Denotes base cs n := by
  unfold digits? Denotes
  cases cs with
  | nil => exact iff_of_false nofun fun h => h.1 rfl
  | cons c rest =>
    rw [if_neg (by exact Bool.false_ne_true), digitsFrom_eq_some_iff]
    simp only [Nat.zero_mul, Nat.zero_add, ne_eq, reduceCtorEq, not_false_eq_true, true_and]

/-- Digits do not begin with a plus sign. -/
theorem Denotes.dropPlus_eq (h : Denotes base digits n) : dropPlus digits = digits := by
  obtain ⟨-, values, hvalues, -⟩ := h
  cases hvalues with
  | nil => rfl
  | cons hdigit _ =>
    unfold dropPlus
    split
    · rename_i hplus
      exact absurd (List.cons.inj hplus).1 hdigit.ne_plus
    · rfl

/-- **An unsigned number is read exactly** where digits stand, or digits after
one plus sign, that denote it, and it is below the bound. -/
theorem unsigned?_eq_some_iff : unsigned? base bound cs = some n
    ↔ ∃ digits, (cs = digits ∨ cs = '+' :: digits) ∧ Denotes base digits n ∧ n < bound := by
  unfold unsigned?
  rw [Option.filter_eq_some_iff, digits?_eq_some_iff, decide_eq_true_iff]
  constructor
  · rintro ⟨hdenotes, hlt⟩
    refine ⟨dropPlus cs, ?_, hdenotes, hlt⟩
    unfold dropPlus
    split
    · exact Or.inr rfl
    · exact Or.inl rfl
  · rintro ⟨digits, rfl | rfl, hdenotes, hlt⟩
    · rw [hdenotes.dropPlus_eq]
      exact ⟨hdenotes, hlt⟩
    · exact ⟨hdenotes, hlt⟩

end LedgerNet.Text
