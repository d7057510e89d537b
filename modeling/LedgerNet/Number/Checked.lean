import LedgerNet.Number.Power

/-!
# Arithmetic that refuses to wrap

Amounts of money are words of 64 bits, and a sum that does not fit them
must never come out small. Each operation here answers with the word it
computes or with the overflow that stopped it; nothing wraps and nothing is
clamped unless the name says so. The lemmas move an answer to the natural
numbers, where the fee arithmetic is stated.
-/

namespace LedgerNet

/-- The ways in which a computation on words or durations leaves its
range. -/
inductive Overflow where
  | sum
  | difference
  | product
  | leftShift
  | durationSum
  | durationProduct
  | instantSum
  deriving DecidableEq, Repr

/-- What is reported when a computation overflows. -/
def Overflow.message : Overflow → String
  | .sum => "attempt to add with overflow"
  | .difference => "attempt to subtract with overflow"
  | .product => "attempt to multiply with overflow"
  | .leftShift => "attempt to shift left with overflow"
  | .durationSum => "overflow when adding durations"
  | .durationProduct => "overflow when multiplying duration by scalar"
  | .instantSum => "overflow when adding duration to instant"

/-- A computation that may overflow. -/
abbrev Checked (α : Type) := Except Overflow α

/-- **An amount of the native asset**, in its smallest unit. -/
abbrev Amount := UInt64

namespace Amount

/-- The sum, if it fits. -/
def plus (a b : Amount) : Checked Amount :=
  if a.toNat + b.toNat < 2 ^ 64 then .ok (a + b) else .error .sum

/-- The difference, if there is enough to take it from. -/
def minus (a b : Amount) : Checked Amount :=
  if b ≤ a then .ok (a - b) else .error .difference

/-- The product, if it fits. -/
def scaled (a b : Amount) : Checked Amount :=
  if a.toNat * b.toNat < 2 ^ 64 then .ok (a * b) else .error .product

/-- The difference, or nothing left. -/
def minusOrZero (a b : Amount) : Amount :=
  if b ≤ a then a - b else 0

/-- The sum of a list from the left, the first overflow ending it. -/
def total : List Amount → Checked Amount :=
  List.foldlM plus 0

/-! ## Answers as natural numbers -/

theorem plus_eq_ok_iff {a b c : Amount} :
    plus a b = .ok c ↔ c.toNat = a.toNat + b.toNat := by
  have hc := c.toNat_lt
  unfold plus
  split <;> rename_i h
  · constructor
    · rintro ⟨⟩
      rw [UInt64.toNat_add, Nat.mod_eq_of_lt h]
    · intro hn
      congr 1
      apply UInt64.toNat_inj.1
      rw [UInt64.toNat_add, Nat.mod_eq_of_lt h, hn]
  · constructor
    · intro hn; exact nomatch hn
    · intro hn; omega

theorem minus_eq_ok_iff {a b c : Amount} :
    minus a b = .ok c ↔ c.toNat + b.toNat = a.toNat := by
  unfold minus
  split <;> rename_i h
  · have hle := UInt64.le_iff_toNat_le.1 h
    constructor
    · rintro ⟨⟩
      rw [UInt64.toNat_sub_of_le _ _ h]
      omega
    · intro hn
      congr 1
      apply UInt64.toNat_inj.1
      rw [UInt64.toNat_sub_of_le _ _ h]
      omega
  · have hlt : ¬ b.toNat ≤ a.toNat := fun hle => h (UInt64.le_iff_toNat_le.2 hle)
    constructor
    · intro hn; exact nomatch hn
    · intro hn; omega

theorem scaled_eq_ok_iff {a b c : Amount} :
    scaled a b = .ok c ↔ c.toNat = a.toNat * b.toNat := by
  have hc := c.toNat_lt
  unfold scaled
  split <;> rename_i h
  · constructor
    · rintro ⟨⟩
      rw [UInt64.toNat_mul, Nat.mod_eq_of_lt h]
    · intro hn
      congr 1
      apply UInt64.toNat_inj.1
      rw [UInt64.toNat_mul, Nat.mod_eq_of_lt h, hn]
  · constructor
    · intro hn; exact nomatch hn
    · intro hn; omega

theorem toNat_minusOrZero (a b : Amount) :
    (minusOrZero a b).toNat = a.toNat - b.toNat := by
  unfold minusOrZero
  split <;> rename_i h
  · exact UInt64.toNat_sub_of_le _ _ h
  · have hlt : ¬ b.toNat ≤ a.toNat := fun hle => h (UInt64.le_iff_toNat_le.2 hle)
    simp
    omega

end Amount

end LedgerNet
