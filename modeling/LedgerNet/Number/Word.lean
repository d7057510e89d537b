import LedgerNet.Number.Checked

/-!
# Words of 32 bits

An address of version 4 is a word of 32 bits, and so is an offset in a block
of addresses. As with amounts of money nothing wraps: a sum or a difference
that is no word is an overflow, and so is a shift by as many places as a word
has, or by more. The lemmas move an answer to the natural numbers.
-/

namespace LedgerNet

/-- **A word of 32 bits.** -/
abbrev Word := UInt32

namespace Word

variable {a b : Word}

/-- The sum, if it fits. -/
def plus (a b : Word) : Checked Word :=
  if a.toNat + b.toNat < 2 ^ 32 then .ok (a + b) else .error .sum

/-- The difference, if there is enough to take it from. -/
def minus (a b : Word) : Checked Word :=
  if b ≤ a then .ok (a - b) else .error .difference

/-- A word moved to the left, if that is by less places than it has. What
leaves it on the left is lost. -/
def shiftedLeft (a places : Word) : Checked Word :=
  if places < 32 then .ok (a <<< places) else .error .leftShift

/-! ## Answers as natural numbers -/

/-- A sum that fits has a value. -/
theorem plus_of_lt (h : a.toNat + b.toNat < 2 ^ 32) :
    plus a b = .ok (a + b) ∧ (a + b).toNat = a.toNat + b.toNat := by
  refine ⟨if_pos h, ?_⟩
  rw [UInt32.toNat_add, Nat.mod_eq_of_lt h]

/-- A difference that is not negative has a value. -/
theorem minus_of_le (h : b.toNat ≤ a.toNat) :
    minus a b = .ok (a - b) ∧ (a - b).toNat = a.toNat - b.toNat := by
  have hle : b ≤ a := UInt32.le_iff_toNat_le.2 h
  exact ⟨if_pos hle, UInt32.toNat_sub_of_le _ _ hle⟩

/-- A shift by less than 32 places is a multiplication, of which the last 32
bits are left. -/
theorem shiftedLeft_of_lt {places : Word} (h : places.toNat < 32) :
    shiftedLeft a places = .ok (a <<< places)
      ∧ (a <<< places).toNat = a.toNat * 2 ^ places.toNat % 2 ^ 32 := by
  refine ⟨if_pos (UInt32.lt_iff_toNat_lt.2 h), ?_⟩
  rw [UInt32.toNat_shiftLeft, Nat.mod_eq_of_lt h, Nat.shiftLeft_eq]

end Word

end LedgerNet
