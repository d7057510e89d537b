import LedgerNet.Conventions
import LedgerNet.Number.Checked

/-!
# The amounts of a staking run

A run holds `total` on the exchange lane, moves it to the platform lane so
that `seed` arrives there, bonds `stake` of it and brings the rest back. Each
transfer to another lane costs two fees, one on each side.

What a run expects to find after each step is a formula over these amounts,
computed from the left with overflows told apart. The checks that come first
are made so that on amounts that pass them none of the formulas overflows.
-/

namespace LedgerNet

/-- **The amounts of a staking run.** -/
structure StakeAmounts where
  /-- What the exchange lane holds before. -/
  total : Amount
  /-- What arrives on the platform lane. -/
  seed : Amount
  /-- What is bonded. -/
  stake : Amount
  fee : Amount
  deriving DecidableEq, Repr

/-- **Why amounts cannot be moved.** -/
inductive AmountsError where
  /-- The seed and its two fees are more than there is. -/
  | seedTooDear (seed fee total : Amount)
  /-- More would be bonded than arrives. -/
  | stakeTooLarge (stake seed : Amount)
  /-- What is not bonded cannot pay for its way back. -/
  | returnTooDear (stake fee seed : Amount)
  deriving DecidableEq, Repr

namespace AmountsError

/-- What the amounts fail to cover. -/
def reason : AmountsError → String
  | seedTooDear seed fee total =>
    "seed " ++ toString seed ++ " plus two fees of " ++ toString fee ++ " exceeds total "
      ++ toString total
  | stakeTooLarge stake seed => "stake " ++ toString stake ++ " exceeds seed " ++ toString seed
  | returnTooDear stake fee seed =>
    "stake " ++ toString stake ++ " plus two fees of " ++ toString fee ++ " exceeds seed "
      ++ toString seed

def message (error : AmountsError) : String :=
  "amounts do not cover fees: " ++ error.reason

end AmountsError

namespace StakeAmounts

/-- The amounts of a run when nobody picks any. -/
def usual : StakeAmounts where
  total := 10 * Units.kilo
  seed := 5 * Units.kilo
  stake := 3 * Units.kilo
  fee := Units.fee

/-- **An amount and two fees**, if their sum is an amount. -/
def withTwoFees? (amount fee : Amount) : Option Amount :=
  ((Amount.scaled fee 2).bind (Amount.plus amount)).toOption

/-- Whether an amount and two fees can be paid out of a sum. -/
def covers (sum amount fee : Amount) : Bool :=
  match withTwoFees? amount fee with
  | some cost => cost ≤ sum
  | none => false

variable (amounts : StakeAmounts)

/-- **The seed can be moved and the stake can be bonded.** -/
def validateStake : Except AmountsError Unit :=
  if covers amounts.total amounts.seed amounts.fee then
    if amounts.seed < amounts.stake then .error (.stakeTooLarge amounts.stake amounts.seed)
    else .ok ()
  else .error (.seedTooDear amounts.seed amounts.fee amounts.total)

/-- **What is not bonded can be brought back** as well. -/
def validateLeftover : Except AmountsError Unit := do
  amounts.validateStake
  if covers amounts.seed amounts.stake amounts.fee then .ok ()
  else .error (.returnTooDear amounts.stake amounts.fee amounts.seed)

/-- Every step of a run can be made. -/
def validate : Except AmountsError Unit := amounts.validateLeftover

/-- What is exported so that the seed arrives after the fee on the other
side. -/
def seedExport : Checked Amount := Amount.plus amounts.seed amounts.fee

/-- What the exchange lane holds once the seed has left it. -/
def xAfterSeed : Checked Amount := do
  let rest ← Amount.minus amounts.total amounts.seed
  Amount.minus rest (← Amount.scaled 2 amounts.fee)

/-- What the platform lane holds once the stake is bonded. -/
def pAfterStake : Checked Amount := Amount.minus amounts.seed amounts.stake

/-- What is exported to bring the rest back. -/
def leftoverExport : Checked Amount := do
  let rest ← Amount.minus amounts.seed amounts.stake
  Amount.minus rest amounts.fee

/-- What the exchange lane holds once the rest is back. -/
def xAfterLeftover : Checked Amount := do
  let before ← amounts.xAfterSeed
  let withSeed ← Amount.plus before amounts.seed
  let rest ← Amount.minus withSeed amounts.stake
  Amount.minus rest (← Amount.scaled 2 amounts.fee)

/-- An amount and two fees as a natural number. -/
theorem covers_iff {sum amount fee : Amount} :
    covers sum amount fee = true ↔ amount.toNat + 2 * fee.toNat ≤ sum.toNat := by
  have hsum := sum.toNat_lt
  unfold covers withTwoFees?
  by_cases hfee : fee.toNat * 2 < 2 ^ 64
  · have hscaled : Amount.scaled fee 2 = .ok (fee * 2) := by
      rw [Amount.scaled_eq_ok_iff, UInt64.toNat_mul]
      simp only [UInt64.toNat_ofNat]
      omega
    have hfees : (fee * 2).toNat = fee.toNat * 2 := Amount.scaled_eq_ok_iff.1 hscaled
    by_cases hcost : amount.toNat + (fee * 2).toNat < 2 ^ 64
    · have hplus : Amount.plus amount (fee * 2) = .ok (amount + fee * 2) := by
        exact if_pos hcost
      have hn := Amount.plus_eq_ok_iff.1 hplus
      simp only [hscaled, Except.bind, hplus, Except.toOption, decide_eq_true_eq,
        UInt64.le_iff_toNat_le]
      omega
    · have hplus : Amount.plus amount (fee * 2) = .error .sum := by
        exact if_neg hcost
      simp only [hscaled, Except.bind, hplus, Except.toOption]
      simp
      omega
  · have hscaled : Amount.scaled fee 2 = .error .product := if_neg hfee
    simp only [hscaled, Except.bind, Except.toOption]
    simp
    omega

end StakeAmounts

end LedgerNet
