import LedgerNet.Proofs.Number.Checked
import LedgerNet.Staking.Amounts

/-!
# What valid amounts come to

The checks on the amounts of a run are inequalities between natural numbers,
and on amounts that pass them every formula of the run has a value, which is
the one it has on natural numbers. So the amounts of a run can be named
without their overflows: what is exported, and what each lane holds after
each step.
-/

namespace LedgerNet

namespace StakeAmounts

variable {amounts : StakeAmounts}

/-- **The seed can be moved and the stake bonded**, in natural numbers. -/
theorem validateStake_eq_ok_iff : amounts.validateStake = .ok ()
    ↔ amounts.seed.toNat + 2 * amounts.fee.toNat ≤ amounts.total.toNat
      ∧ amounts.stake.toNat ≤ amounts.seed.toNat := by
  unfold validateStake
  rw [← covers_iff]
  split
  · rename_i hcovers
    rw [← Nat.not_lt, ← UInt64.lt_iff_toNat_lt]
    split <;> simp_all
  · simp_all

/-- **The rest can be brought back as well**, in natural numbers. -/
theorem validateLeftover_eq_ok_iff : amounts.validateLeftover = .ok ()
    ↔ amounts.validateStake = .ok ()
      ∧ amounts.stake.toNat + 2 * amounts.fee.toNat ≤ amounts.seed.toNat := by
  unfold validateLeftover
  rw [← covers_iff]
  cases hstake : amounts.validateStake with
  | error cause => simp [bind, Except.bind]
  | ok _ => split <;> simp_all [bind, Except.bind]

/-- The seed with the fee for its arrival. -/
theorem seedExport_of_valid (h : amounts.validateStake = .ok ()) :
    amounts.seedExport = .ok (amounts.seed + amounts.fee)
      ∧ (amounts.seed + amounts.fee).toNat = amounts.seed.toNat + amounts.fee.toNat := by
  obtain ⟨hseed, -⟩ := validateStake_eq_ok_iff.1 h
  have htotal := amounts.total.toNat_lt
  exact Amount.plus_of_lt (by omega)

/-- Two fees. -/
theorem twoFees_of_valid (h : amounts.validateStake = .ok ()) :
    Amount.scaled 2 amounts.fee = .ok (2 * amounts.fee)
      ∧ (2 * amounts.fee).toNat = 2 * amounts.fee.toNat := by
  obtain ⟨hseed, -⟩ := validateStake_eq_ok_iff.1 h
  have htotal := amounts.total.toNat_lt
  have htwo : (2 : Amount).toNat = 2 := rfl
  have hfits : (2 : Amount).toNat * amounts.fee.toNat < 2 ^ 64 := by
    rw [htwo]
    omega
  exact Amount.scaled_of_lt hfits

/-- What the exchange lane holds when the seed has left. -/
theorem xAfterSeed_of_valid (h : amounts.validateStake = .ok ()) :
    amounts.xAfterSeed = .ok (amounts.total - amounts.seed - 2 * amounts.fee)
      ∧ (amounts.total - amounts.seed - 2 * amounts.fee).toNat
        = amounts.total.toNat - amounts.seed.toNat - 2 * amounts.fee.toNat := by
  obtain ⟨hseed, -⟩ := validateStake_eq_ok_iff.1 h
  obtain ⟨hfees, hfeesn⟩ := twoFees_of_valid h
  have hle : amounts.seed.toNat ≤ amounts.total.toNat := by omega
  obtain ⟨hbefore, hbeforen⟩ := Amount.minus_of_le hle
  have hrestle : (2 * amounts.fee).toNat ≤ (amounts.total - amounts.seed).toNat := by omega
  obtain ⟨hrest, hrestn⟩ := Amount.minus_of_le hrestle
  refine ⟨?_, by omega⟩
  simp only [xAfterSeed, hbefore, hfees, bind, Except.bind]
  exact hrest

/-- What the platform lane holds when the stake is bonded. -/
theorem pAfterStake_of_valid (h : amounts.validateStake = .ok ()) :
    amounts.pAfterStake = .ok (amounts.seed - amounts.stake)
      ∧ (amounts.seed - amounts.stake).toNat = amounts.seed.toNat - amounts.stake.toNat :=
  Amount.minus_of_le (validateStake_eq_ok_iff.1 h).2

/-- What leaves the platform lane in the end, without the fee for its
departure. -/
theorem leftoverExport_of_valid (h : amounts.validateLeftover = .ok ()) :
    amounts.leftoverExport = .ok (amounts.seed - amounts.stake - amounts.fee)
      ∧ (amounts.seed - amounts.stake - amounts.fee).toNat
        = amounts.seed.toNat - amounts.stake.toNat - amounts.fee.toNat := by
  obtain ⟨hstake, hrest⟩ := validateLeftover_eq_ok_iff.1 h
  obtain ⟨hbefore, hbeforen⟩ := pAfterStake_of_valid hstake
  have hfee : amounts.fee.toNat ≤ (amounts.seed - amounts.stake).toNat := by omega
  obtain ⟨hexported, hn⟩ := Amount.minus_of_le hfee
  refine ⟨?_, by omega⟩
  have hminus : Amount.minus amounts.seed amounts.stake = .ok (amounts.seed - amounts.stake) :=
    hbefore
  simp only [leftoverExport, hminus, bind, Except.bind]
  exact hexported

/-- What the exchange lane holds when the rest is back. -/
theorem xAfterLeftover_of_valid (h : amounts.validateLeftover = .ok ()) :
    ∃ held, amounts.xAfterLeftover = .ok held
      ∧ held.toNat = amounts.total.toNat - amounts.stake.toNat - 4 * amounts.fee.toNat := by
  obtain ⟨hstake, hrest⟩ := validateLeftover_eq_ok_iff.1 h
  obtain ⟨hseed, hstaken⟩ := validateStake_eq_ok_iff.1 hstake
  have htotal := amounts.total.toNat_lt
  obtain ⟨hbefore, hbeforen⟩ := xAfterSeed_of_valid hstake
  obtain ⟨hfees, hfeesn⟩ := twoFees_of_valid hstake
  generalize hx : amounts.total - amounts.seed - 2 * amounts.fee = before at hbefore hbeforen
  have hfits : before.toNat + amounts.seed.toNat < 2 ^ 64 := by omega
  obtain ⟨hwithSeed, hwithSeedn⟩ := Amount.plus_of_lt hfits
  have hle : amounts.stake.toNat ≤ (before + amounts.seed).toNat := by omega
  obtain ⟨hrest, hrestn⟩ := Amount.minus_of_le hle
  have hfeesle : (2 * amounts.fee).toNat ≤ (before + amounts.seed - amounts.stake).toNat := by
    omega
  obtain ⟨hheld, hheldn⟩ := Amount.minus_of_le hfeesle
  refine ⟨before + amounts.seed - amounts.stake - 2 * amounts.fee, ?_, by omega⟩
  simp only [xAfterLeftover, hbefore, hwithSeed, hrest, hfees, bind, Except.bind]
  exact hheld

/-! ## Over the integers -/

/-- **The fee arithmetic is exact.** Over all words, the checks are the
inequalities of the integers, whatever their own sums overflow to. On amounts
that pass, every formula has the value that it has over the integers, and no
step of its computation leaves the words: for the seed and the stake under the
first check, for the way back under the second. -/
theorem fee_arithmetic_exact (amounts : StakeAmounts) (total seed stake fee : Int)
    (htotal : total = amounts.total.toNat) (hseed : seed = amounts.seed.toNat)
    (hstake : stake = amounts.stake.toNat) (hfee : fee = amounts.fee.toNat) :
    (amounts.validateStake = .ok () ↔ seed + 2 * fee ≤ total ∧ stake ≤ seed)
      ∧ (amounts.validateLeftover = .ok ()
          ↔ (seed + 2 * fee ≤ total ∧ stake ≤ seed) ∧ stake + 2 * fee ≤ seed)
      ∧ (amounts.validateStake = .ok ()
          → Amount.Exactly amounts.seedExport (seed + fee)
            ∧ Amount.Exactly amounts.xAfterSeed (total - seed - 2 * fee)
            ∧ Amount.Exactly amounts.pAfterStake (seed - stake))
      ∧ (amounts.validateLeftover = .ok ()
          → Amount.Exactly amounts.leftoverExport (seed - stake - fee)
            ∧ Amount.Exactly amounts.xAfterLeftover (total - stake - 4 * fee)) := by
  subst htotal hseed hstake hfee
  refine ⟨?checked, ?returnable, fun hvalid => ⟨?seedExport, ?xAfterSeed, ?pAfterStake⟩,
    fun hvalid => ⟨?leftoverExport, ?xAfterLeftover⟩⟩
  case checked =>
    rw [validateStake_eq_ok_iff]
    omega
  case returnable =>
    rw [validateLeftover_eq_ok_iff, validateStake_eq_ok_iff]
    omega
  case seedExport =>
    obtain ⟨hanswer, hn⟩ := seedExport_of_valid hvalid
    exact ⟨_, hanswer, by omega⟩
  -- a difference of words is the integer one only because it is not negative
  case xAfterSeed =>
    obtain ⟨hcovered, -⟩ := validateStake_eq_ok_iff.1 hvalid
    obtain ⟨hanswer, hn⟩ := xAfterSeed_of_valid hvalid
    exact ⟨_, hanswer, by omega⟩
  case pAfterStake =>
    obtain ⟨-, hbonded⟩ := validateStake_eq_ok_iff.1 hvalid
    obtain ⟨hanswer, hn⟩ := pAfterStake_of_valid hvalid
    exact ⟨_, hanswer, by omega⟩
  case leftoverExport =>
    obtain ⟨-, hcovered⟩ := validateLeftover_eq_ok_iff.1 hvalid
    obtain ⟨hanswer, hn⟩ := leftoverExport_of_valid hvalid
    exact ⟨_, hanswer, by omega⟩
  case xAfterLeftover =>
    obtain ⟨hstake, hcovered⟩ := validateLeftover_eq_ok_iff.1 hvalid
    obtain ⟨hpaid, -⟩ := validateStake_eq_ok_iff.1 hstake
    obtain ⟨held, hanswer, hn⟩ := xAfterLeftover_of_valid hvalid
    exact ⟨held, hanswer, by omega⟩

/-- The formulas at amounts that reach the largest word, where the sums on the
way are close to overflowing. -/
theorem fee_arithmetic_exact_largest :
    Amount.Exactly
        (StakeAmounts.xAfterLeftover ⟨18446744073709551615, 18446744073709551605, 7, 5⟩)
        18446744073709551588 :=
  ((fee_arithmetic_exact ⟨18446744073709551615, 18446744073709551605, 7, 5⟩
    18446744073709551615 18446744073709551605 7 5 rfl rfl rfl rfl).2.2.2 rfl).2

end StakeAmounts

end LedgerNet
