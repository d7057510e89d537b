import LedgerNet.Number.Checked

/-!
# Arithmetic that has a value

Where the numbers fit, an operation on amounts that refuses to wrap is the
operation on words, and that is the one on natural numbers. Each lemma says
all of this at once: that there is a value, which word it is, and which
number. Over the integers, where a difference may be negative, an answer that
has the value of a formula is an exact one.
-/

namespace LedgerNet

namespace Amount

variable {a b : Amount}

/-- A sum that fits has a value. -/
theorem plus_of_lt (h : a.toNat + b.toNat < 2 ^ 64) :
    plus a b = .ok (a + b) ∧ (a + b).toNat = a.toNat + b.toNat :=
  ⟨if_pos h, plus_eq_ok_iff.1 (if_pos h)⟩

/-- A difference that is not negative has a value. -/
theorem minus_of_le (h : b.toNat ≤ a.toNat) :
    minus a b = .ok (a - b) ∧ (a - b).toNat = a.toNat - b.toNat := by
  have hminus : minus a b = .ok (a - b) := if_pos (UInt64.le_iff_toNat_le.2 h)
  have hback := minus_eq_ok_iff.1 hminus
  exact ⟨hminus, by omega⟩

/-- A product that fits has a value. -/
theorem scaled_of_lt (h : a.toNat * b.toNat < 2 ^ 64) :
    scaled a b = .ok (a * b) ∧ (a * b).toNat = a.toNat * b.toNat :=
  ⟨if_pos h, scaled_eq_ok_iff.1 (if_pos h)⟩

/-- **The answer is exact**: nothing overflowed on the way, and the word it
comes to is this integer. -/
def Exactly (answer : Checked Amount) (value : Int) : Prop :=
  ∃ word, answer = .ok word ∧ (word.toNat : Int) = value

end Amount

end LedgerNet
