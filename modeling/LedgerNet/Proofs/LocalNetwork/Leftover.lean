import LedgerNet.Proofs.LocalNetwork.Stakers

/-!
# What comes back of a stake

A participant that has staked can bring back what it did not bond. The amounts
are checked for this beforehand: the stake and two more fees have to be covered
by the seed. The export pays one of the fees and the import the other one, and
an import has to bring something. So the check lets one case too many pass, the
one in which the rest is the two fees and nothing else: the rest is exported,
both balances become what they are to be, and the import is refused.

Whatever else is on its way to the exchange address arrives together with the
rest, and the balance is then not the one that was reckoned with.
-/

namespace LedgerNet

namespace Stakeholder

variable (staker : Stakeholder)

/-- **The rest is back**: nothing is left on the platform lane, and the
exchange lane has lost the stake and four fees. -/
structure HasReturned (ledger : Ledger) : Prop where
  p : ledger.pBalance staker.node.pAddress = 0
  x : (ledger.xBalance staker.node.xAddress).toNat
    = staker.amounts.total.toNat - staker.amounts.stake.toNat - 4 * staker.amounts.fee.toNat

variable {staker} in
theorem HasReturned.of_holdings {ledger : Ledger}
    (hp : ledger.holdings.p staker.node.pAddress = 0)
    (hx : ledger.holdings.x staker.node.xAddress = staker.amounts.total.toNat
      - staker.amounts.stake.toNat - 4 * staker.amounts.fee.toNat) : staker.HasReturned ledger :=
  ⟨UInt64.toNat_inj.1 hp, hx⟩

/-- The refusal of an import that would bring nothing. -/
def nothingToImport : Failure StakingError :=
  .error (.api "avm.importAVAX" (.rpc "avm.importAVAX" Ledger.refusalCode
    ("no funds to import for " ++ staker.node.xAddress)))

end Stakeholder

namespace LocalNetwork

variable {epoch now : Duration} {base network : LocalNetwork} {ledger : Ledger}
  {staker : Stakeholder} {t : Timeline LocalNetwork}

/-- **Bringing back what a stake has left**, at any later time and with nothing
else on its way. Both balances become what they are to be; the call succeeds if
there is more than the two fees, and is refused if there is not. -/
theorem runOn_returnLeftover (hknown : staker.node.KnownTo ledger.registry)
    (hsettled : ledger.outlook.Settled) (hfee : ledger.holdings.fee = staker.amounts.fee.toNat)
    (hvalid : staker.amounts.validateLeftover = .ok ())
    (hx : ledger.holdings.x staker.node.xAddress = staker.amounts.total.toNat
      - staker.amounts.seed.toNat - 2 * staker.amounts.fee.toNat)
    (hp : ledger.holdings.p staker.node.pAddress
      = staker.amounts.seed.toNat - staker.amounts.stake.toNat)
    (hnothing : ledger.holdings.pending staker.node.xAddress = 0) :
    ∃ outcome left, (staker.node.returnLeftover staker.amounts).runOn (Timeline.handler answer)
        (moment epoch base now ledger) = (outcome, moment epoch base now left)
      ∧ staker.HasReturned left
      ∧ (staker.amounts.stake.toNat + 2 * staker.amounts.fee.toNat < staker.amounts.seed.toNat →
          outcome = .ok ())
      ∧ (staker.amounts.stake.toNat + 2 * staker.amounts.fee.toNat = staker.amounts.seed.toNat →
          outcome = .error staker.nothingToImport) := by
  obtain ⟨hvalidStake, hcovered⟩ := StakeAmounts.validateLeftover_eq_ok_iff.1 hvalid
  obtain ⟨htotal, -⟩ := StakeAmounts.validateStake_eq_ok_iff.1 hvalidStake
  rcases Nat.lt_or_eq_of_le hcovered with hmore | hfees
  · obtain ⟨_, _, left, hrun, rfl, hleft⟩ := drives_returnLeftover hknown hsettled hfee hvalid
      hmore hx hp hnothing ledger rfl
    refine ⟨_, left, hrun, .of_holdings ?_ ?_, fun _ => rfl,
      fun h => absurd h (Nat.ne_of_lt hmore)⟩
    · rw [hleft]
      exact Function.update_self _ _ _
    · rw [hleft]
      exact Function.update_self _ _ _
  · obtain ⟨_, _, left, hrun, rfl, rfl, hleft⟩ := fails_returnLeftover hknown hsettled hfee hvalid
      hfees hp hnothing ledger rfl
    refine ⟨_, left, hrun, .of_holdings ?_ ?_,
      fun h => absurd hfees (Nat.ne_of_lt h), fun _ => rfl⟩
    · rw [hleft]
      exact Function.update_self _ _ _
    · -- nothing has arrived, and there was nothing to arrive
      have hkept : left.holdings.x = ledger.holdings.x := by rw [hleft]
      rw [hkept]
      omega

/-- **A stake that was accepted and the way back.** Once a node has become a
validator or a delegator with amounts that pass their check, it can bring back
the rest if and only if nothing else is on its way to its exchange address and
the seed exceeds the stake and two fees. If nothing else is on its way, nothing
is left on the platform lane and the exchange lane has lost the stake and four
fees, also if the rest was the two fees: then it is the import that is refused. -/
theorem returnLeftover_after_stake (hknown : staker.node.KnownTo network.ledger.registry)
    (hsettled : network.ledger.outlook.Settled) (hfee : staker.amounts.fee = network.ledger.fee)
    (hvalid : staker.amounts.validateLeftover = .ok ())
    (hdone : staker.program.runOn (Timeline.handler answer) ⟨epoch, now, network⟩ = (.ok (), t)) :
    (((staker.node.returnLeftover staker.amounts).runOn (Timeline.handler answer) t).1 = .ok ()
      ↔ t.world.ledger.pending.getD staker.node.xAddress 0 = 0
        ∧ staker.amounts.stake.toNat + 2 * staker.amounts.fee.toNat < staker.amounts.seed.toNat)
    ∧ (t.world.ledger.pending.getD staker.node.xAddress 0 = 0 →
      ∃ outcome later, (staker.node.returnLeftover staker.amounts).runOn
          (Timeline.handler answer) t = (outcome, later)
        ∧ staker.HasReturned later.world.ledger
        ∧ (staker.amounts.stake.toNat + 2 * staker.amounts.fee.toNat
            = staker.amounts.seed.toNat → outcome = .error staker.nothingToImport)) := by
  have hfeen : network.ledger.holdings.fee = staker.amounts.fee.toNat :=
    congrArg UInt64.toNat hfee.symm
  obtain ⟨later, left, rfl, hstaked⟩ := leaves_staker hknown hsettled hfeen now _ _ hdone
  have hknown : staker.node.KnownTo left.registry := hstaked.registry_eq ▸ hknown
  have hsettled : left.outlook.Settled := hstaked.outlook_eq ▸ hsettled
  have hfeen : left.holdings.fee = staker.amounts.fee.toNat := by
    rw [← hfeen]
    exact congrArg UInt64.toNat hstaked.fee_eq
  have hreturn (hnothing : left.pending.getD staker.node.xAddress 0 = 0) :=
    @runOn_returnLeftover epoch later network left staker hknown hsettled hfeen hvalid
      hstaked.x_eq hstaked.p_eq (congrArg UInt64.toNat hnothing)
  refine ⟨⟨fun hok => ?_, fun ⟨hnothing, hmore⟩ => ?_⟩, fun hnothing => ?_⟩
  · obtain ⟨-, _, -, hnothing, hmore, -⟩ :=
      leaves_returnLeftover hknown hsettled hfeen hstaked.x_eq later () _ (Prod.ext hok rfl)
    exact ⟨UInt64.toNat_inj.1 hnothing, hmore⟩
  · obtain ⟨outcome, final, hrun, -, hok, -⟩ := hreturn hnothing
    rw [hrun]
    exact hok hmore
  · obtain ⟨outcome, final, hrun, hreturned, -, hrefused⟩ := hreturn hnothing
    exact ⟨outcome, _, hrun, hreturned, hrefused⟩

/-- The follower is left with thirty and brings back ten. -/
theorem returnLeftover_after_stake_follower :
    ∃ t, follower.program.runOn (Timeline.handler answer)
          ⟨Duration.ofSeconds 1700000000, ⟨0⟩, registeredPair⟩ = (.ok (), t)
      ∧ ((follower.node.returnLeftover follower.amounts).runOn (Timeline.handler answer) t).1
        = .ok () := by
  obtain ⟨left, hrun, hstaked⟩ := @runOn_staker (Duration.ofSeconds 1700000000) ⟨0⟩
    registeredPair.ledger registeredPair follower rfl follower_ready ⟨by decide, by decide⟩
  refine ⟨_, hrun, (returnLeftover_after_stake follower_ready.registered.toKnownTo
    (.of_quiet rfl) rfl rfl hrun).1.2 ⟨?_, by decide⟩⟩
  exact hstaked.pending_eq "X-local1bob0"

/-- A validator that keeps the two fees of the way back and nothing else. -/
def spender : Stakeholder := { founder (Duration.ofSeconds 86400) with
  amounts := ⟨1000, 500, 480, 10⟩ }

theorem spender_ready : spender.Ready registeredPair.ledger :=
  ⟨⟨⟨List.mem_cons_self, rfl, rfl⟩, rfl, rfl⟩, rfl, rfl, by decide, rfl, rfl, rfl, rfl⟩

/-- **Amounts that pass their check and cannot be returned.** -/
theorem spender_not_returned :
    spender.amounts.validateLeftover = .ok ()
      ∧ ∃ t, spender.program.runOn (Timeline.handler answer)
            ⟨Duration.ofSeconds 1700000000, ⟨0⟩, registeredPair⟩ = (.ok (), t)
        ∧ ((spender.node.returnLeftover spender.amounts).runOn (Timeline.handler answer) t).1
          = .error spender.nothingToImport := by
  obtain ⟨left, hrun, hstaked⟩ := @runOn_staker (Duration.ofSeconds 1700000000) ⟨0⟩
    registeredPair.ledger registeredPair spender rfl spender_ready ⟨by decide, by decide⟩
  obtain ⟨outcome, final, hreturn, -, -, hrefused⟩ := @runOn_returnLeftover
    (Duration.ofSeconds 1700000000) _ registeredPair left spender
    (hstaked.registry_eq ▸ spender_ready.registered.toKnownTo)
    (hstaked.outlook_eq ▸ .of_quiet rfl) (congrArg UInt64.toNat hstaked.fee_eq) rfl
    hstaked.x_eq hstaked.p_eq (congrArg UInt64.toNat (hstaked.pending_eq "X-local1ann0"))
  refine ⟨rfl, _, hrun, ?_⟩
  rw [hreturn]
  exact hrefused rfl

end LocalNetwork

end LedgerNet
