import LedgerNet.Proofs.LocalNetwork.Moments
import LedgerNet.Proofs.Staking.Amounts

/-!
# The stages of staking on a network in memory

What each stage does to the holdings, if nothing is in store for its
transactions and the amounts are valid. The seed leaves the exchange lane
and arrives on the other one; the stake is bonded out of it; the rest
returns. Every stage compares balances on its way, and that they are as it
expects is part of its success.

Time passes in one place only: a stake is waited for until it has begun.
-/

namespace LedgerNet

/-! ## When stakes begin -/

namespace StakingSchedule

/-- **When the wait for a stake is over** that is asked for at a point in
time. -/
def begun (schedule : StakingSchedule) (now : Duration) : Duration :=
  Timeline.tick ⟨now.nanos + schedule.startDelay.nanos + schedule.startGrace.nanos⟩

/-- **The times of a stake do not overflow** that is asked for at a point in
time: the end of its period, and the end of the wait for its beginning. -/
structure Fits (schedule : StakingSchedule) (period epoch now : Duration) : Prop where
  finish : epoch.nanos + now.nanos + schedule.startDelay.nanos + period.nanos < Duration.limit
  begins : now.nanos + schedule.startDelay.nanos + schedule.startGrace.nanos
    < Duration.instantLimit

end StakingSchedule

/-! ## Participants and what they hold -/

namespace Participant

variable (node : Participant LocalClient) (amounts : StakeAmounts)

/-- **A ledger knows a participant**: its user, and its addresses as the
first ones of the user. -/
structure KnownTo (registry : Registry) : Prop where
  user : node.user.name ∈ registry.users
  xFirst : (registry.xAddresses node.user.name).head? = some node.xAddress
  pFirst : (registry.pAddresses node.user.name).head? = some node.pAddress

/-- **A participant can be served**: the ledger knows it, nothing is in
store for its transactions, and the fee is the one it reckons with. -/
structure Served (h : Holdings) : Prop where
  known : node.KnownTo h.registry
  quiet : h.outlook = .quiet
  fee : h.fee = amounts.fee.toNat

/-- The holdings when the seed has arrived. -/
def seeded (h : Holdings) : Holdings :=
  { h with
    x := Function.update h.x node.xAddress
      (amounts.total.toNat - amounts.seed.toNat - 2 * amounts.fee.toNat)
    p := Function.update h.p node.pAddress amounts.seed.toNat }

@[simp] theorem seeded_p (h : Holdings) :
    (node.seeded amounts h).p node.pAddress = amounts.seed.toNat :=
  Function.update_self _ _ _

/-- The holdings when the stake is bonded. -/
@[simp] def bonded (h : Holdings) : Holdings :=
  { h with
    x := Function.update h.x node.xAddress
      (amounts.total.toNat - amounts.seed.toNat - 2 * amounts.fee.toNat)
    p := Function.update h.p node.pAddress (amounts.seed.toNat - amounts.stake.toNat) }

/-- **The request for a stake** at a time of day. -/
def requestAt (nodeId : String) (period timeOfDay : Duration) : StakeRequest where
  nodeId := nodeId
  rewardAddress := node.pAddress
  stake := amounts.stake
  start := Duration.seconds ⟨timeOfDay.nanos + node.settings.schedule.startDelay.nanos⟩
  finish := Duration.seconds
    ⟨timeOfDay.nanos + node.settings.schedule.startDelay.nanos + period.nanos⟩

/-- The holdings when a validation has begun that was asked for at a time of
day. -/
@[simp] def validating (timeOfDay : Duration) (h : Holdings) : Holdings :=
  { node.bonded amounts h with
    validators := h.validators ++ [Ledger.validatorOf (node.requestAt amounts node.nodeId
      node.settings.schedule.validationPeriod timeOfDay)] }

/-- The holdings when a delegation to a validator has begun. -/
@[simp] def delegating (validator : String) (timeOfDay : Duration) (h : Holdings) : Holdings :=
  { node.bonded amounts h with
    delegations := h.delegations ++ [node.requestAt amounts validator
      node.settings.schedule.delegationPeriod timeOfDay] }

/-- The holdings when the rest is back. -/
@[simp] def returned (h : Holdings) : Holdings :=
  { h with
    x := Function.update h.x node.xAddress
      (amounts.total.toNat - amounts.stake.toNat - 4 * amounts.fee.toNat)
    p := Function.update h.p node.pAddress 0 }

end Participant

/-- What was pending and is claimed again leaves no trace. -/
theorem Holdings.update_pending {pending : String → Nat} {address : String} {amount : Nat}
    (h : pending address = 0) :
    Function.update (Function.update pending address amount) address 0 = pending := by
  rw [Function.update_idem, ← h, Function.update_eq_self]

namespace LocalNetwork

variable {epoch : Duration} {base : LocalNetwork} {node : Participant LocalClient}
  {amounts : StakeAmounts} {settings : PollSettings} {lane : Lane} {tx : TxId} {now : Duration}
  {h : Holdings}

/-- A participant's transaction settles at once. -/
theorem drives_awaitTx (hlane : lane ≠ .c) (hsettled : h.outlook.Settled) :
    Drives epoch base (node.awaitTx lane tx settings) now h fun _ later left =>
      later = now ∧ left = h :=
  (drives_await hlane hsettled).wrap

/-- A participant's balance is as it expects. -/
theorem drives_expect {expected : Amount}
    (hbalance : h.on lane (node.addressOn lane) = expected.toNat) :
    Drives epoch base (node.expect lane expected) now h fun _ later left =>
      later = now ∧ left = h :=
  (drives_check hbalance).wrap

/-- The validators that a node reports. -/
theorem drives_validators :
    Drives epoch base (node.call .validators) now h fun validators later left =>
      later = now ∧ validators = h.validators ∧ left = h := by
  refine Drives.wrap (drives_callNode fun ledger hledger => ?_)
  exact ⟨_, ledger, rfl, by rw [← hledger]; rfl, hledger⟩

/-- **Seeding the platform lane.** -/
theorem drives_seed (hserved : node.Served amounts h) (hvalid : amounts.validateStake = .ok ())
    (hseed : 0 < amounts.seed.toNat) (hx : h.x node.xAddress = amounts.total.toNat)
    (hp : h.p node.pAddress = 0) (hpending : h.pending node.pAddress = 0) :
    Drives epoch base (node.seed amounts settings) now h fun _ later left =>
      later = now ∧ left = node.seeded amounts h := by
  obtain ⟨⟨huser, hxFirst, hpFirst⟩, hquiet, hfee⟩ := hserved
  have hsettled := Outlook.Settled.of_quiet hquiet
  obtain ⟨hcovered, hstake⟩ := StakeAmounts.validateStake_eq_ok_iff.1 hvalid
  obtain ⟨hexport, hexportn⟩ := StakeAmounts.seedExport_of_valid hvalid
  obtain ⟨hafter, haftern⟩ := StakeAmounts.xAfterSeed_of_valid hvalid
  have htotal := amounts.total.toNat_lt
  unfold Participant.seed
  refine Drives.ofExcept_bind (by rw [hvalid]; rfl) (Drives.ofChecked_bind hexport ?_)
  have hfunds : (amounts.seed + amounts.fee).toNat + h.fee ≤ h.x node.xAddress := by omega
  have hfits : h.pending node.pAddress + (amounts.seed + amounts.fee).toNat < 2 ^ 64 := by omega
  refine Drives.bind (drives_step (fun _ => rfl)
    (Ledger.turns_xExport hsettled hxFirst hfunds hfits)) ?_
  rintro exported _ _ ⟨rfl, rfl⟩
  refine Drives.bind (drives_awaitTx (by decide) hsettled) ?_
  rintro _ _ _ ⟨rfl, rfl⟩
  have harrives : h.fee < Function.update h.pending node.pAddress
      (h.pending node.pAddress + (amounts.seed + amounts.fee).toNat) node.pAddress := by
    rw [Function.update_self]
    omega
  have hroom : h.p node.pAddress + (Function.update h.pending node.pAddress
      (h.pending node.pAddress + (amounts.seed + amounts.fee).toNat) node.pAddress - h.fee)
        < 2 ^ 64 := by
    rw [Function.update_self]
    omega
  refine Drives.bind (drives_step (fun _ => rfl)
    (Ledger.turns_pImport hsettled huser harrives hroom)) ?_
  rintro imported _ left ⟨rfl, hleft⟩
  have hxleft : h.x node.xAddress - ((amounts.seed + amounts.fee).toNat + h.fee)
      = amounts.total.toNat - amounts.seed.toNat - 2 * amounts.fee.toNat := by omega
  have hpleft : h.p node.pAddress
      + (h.pending node.pAddress + (amounts.seed + amounts.fee).toNat - h.fee)
      = amounts.seed.toNat := by omega
  simp only [Function.update_self, Holdings.update_pending hpending, hxleft, hpleft] at hleft
  obtain rfl : left = node.seeded amounts h := hleft
  refine Drives.bind (drives_awaitTx (by decide) hsettled) ?_
  rintro _ _ _ ⟨rfl, rfl⟩
  refine Drives.bind (drives_expect (Function.update_self _ _ _)) ?_
  rintro _ _ _ ⟨rfl, rfl⟩
  refine Drives.ofChecked_bind hafter (drives_expect ?_)
  rw [haftern]
  exact Function.update_self _ _ _

/-! ## Stakes -/

/-- **A request for a stake**, and when it begins. -/
theorem drives_stakeRequest {nodeId : String} {period : Duration}
    (hfinish : epoch.nanos + now.nanos + node.settings.schedule.startDelay.nanos + period.nanos
      < Duration.limit)
    (hstart : now.nanos + node.settings.schedule.startDelay.nanos < Duration.instantLimit) :
    Drives epoch base (node.stakeRequest nodeId amounts.stake period) now h
      fun requested later left =>
        requested = (node.requestAt amounts nodeId period ⟨epoch.nanos + now.nanos⟩,
          ⟨now.nanos + node.settings.schedule.startDelay.nanos⟩)
        ∧ later = now ∧ left = h := by
  have hbegin : Duration.plus ⟨epoch.nanos + now.nanos⟩ node.settings.schedule.startDelay
      = .ok ⟨epoch.nanos + now.nanos + node.settings.schedule.startDelay.nanos⟩ := by
    refine if_pos ?_
    show epoch.nanos + now.nanos + _ < _
    omega
  have hend : Duration.plus
      ⟨epoch.nanos + now.nanos + node.settings.schedule.startDelay.nanos⟩ period
      = .ok ⟨epoch.nanos + now.nanos + node.settings.schedule.startDelay.nanos + period.nanos⟩ :=
    if_pos hfinish
  have hlater : now.later node.settings.schedule.startDelay
      = .ok ⟨now.nanos + node.settings.schedule.startDelay.nanos⟩ := if_pos hstart
  refine Drives.timeOfDay_bind (Drives.ofChecked_bind hbegin (Drives.ofChecked_bind hend ?_))
  exact Drives.elapsed_bind (Drives.ofChecked_bind hlater (Drives.of_pure ⟨rfl, rfl, rfl⟩))

/-- **Waiting for a stake to begin.** -/
theorem drives_awaitBegin {period : Duration}
    (hfits : node.settings.schedule.Fits period epoch now) :
    Drives epoch base
      (node.awaitBegin ⟨now.nanos + node.settings.schedule.startDelay.nanos⟩) now h
      fun _ later left => later = node.settings.schedule.begun now ∧ left = h := by
  have hlater : Duration.later ⟨now.nanos + node.settings.schedule.startDelay.nanos⟩
      node.settings.schedule.startGrace
      = .ok ⟨now.nanos + node.settings.schedule.startDelay.nanos
          + node.settings.schedule.startGrace.nanos⟩ := if_pos hfits.begins
  refine Drives.ofChecked_bind hlater (Drives.elapsed_bind ((Drives.sleep _).mono ?_))
  rintro _ _ _ ⟨rfl, rfl⟩
  refine ⟨?_, rfl⟩
  refine congrArg (fun instant => Timeline.tick ⟨instant⟩) ?_
  show now.nanos + (now.nanos + node.settings.schedule.startDelay.nanos
      + node.settings.schedule.startGrace.nanos - now.nanos)
    = now.nanos + node.settings.schedule.startDelay.nanos
      + node.settings.schedule.startGrace.nanos
  omega

/-- **Every stake begins with the seed** and a request. -/
theorem drives_seedAndRequest {nodeId : String} {period : Duration} {settings : PollSettings}
    {next : StakeRequest × Duration → Attempt (Timed (Clients LocalClient)) StakingError Unit}
    {after : Unit → Duration → Holdings → Prop} (hserved : node.Served amounts h)
    (hvalid : amounts.validateStake = .ok ()) (hseed : 0 < amounts.seed.toNat)
    (hx : h.x node.xAddress = amounts.total.toNat) (hp : h.p node.pAddress = 0)
    (hpending : h.pending node.pAddress = 0)
    (hfits : node.settings.schedule.Fits period epoch now)
    (hnext : Drives epoch base
      (next (node.requestAt amounts nodeId period ⟨epoch.nanos + now.nanos⟩,
        ⟨now.nanos + node.settings.schedule.startDelay.nanos⟩)) now (node.seeded amounts h) after) :
    Drives epoch base (node.seed amounts settings >>= fun _ =>
      node.stakeRequest nodeId amounts.stake period >>= next) now h after := by
  refine Drives.bind (drives_seed hserved hvalid hseed hx hp hpending) ?_
  rintro _ _ _ ⟨rfl, rfl⟩
  have hbegins := hfits.begins
  refine Drives.bind (drives_stakeRequest hfits.finish (by omega)) ?_
  rintro _ _ _ ⟨rfl, rfl, rfl⟩
  exact hnext

/-- **Every stake is waited for** until it is accepted, and until it has
begun. -/
theorem drives_awaitStake {tx : TxId} {period : Duration} {settings : PollSettings}
    {next : Unit → Attempt (Timed (Clients LocalClient)) StakingError Unit}
    {after : Unit → Duration → Holdings → Prop} (hsettled : h.outlook.Settled)
    (hfits : node.settings.schedule.Fits period epoch now)
    (hnext : Drives epoch base (next ()) (node.settings.schedule.begun now) h after) :
    Drives epoch base (node.awaitTx .p tx settings >>= fun _ =>
      node.awaitBegin ⟨now.nanos + node.settings.schedule.startDelay.nanos⟩ >>= next)
      now h after := by
  refine Drives.bind (drives_awaitTx (by decide) hsettled) ?_
  rintro _ _ _ ⟨rfl, rfl⟩
  refine Drives.bind (drives_awaitBegin hfits) ?_
  rintro _ _ _ ⟨rfl, rfl⟩
  exact hnext

/-- The seed covers the stake. -/
theorem stake_le_seeded (hvalid : amounts.validateStake = .ok ()) :
    amounts.stake.toNat ≤ (node.seeded amounts h).p node.pAddress := by
  obtain ⟨-, hstake⟩ := StakeAmounts.validateStake_eq_ok_iff.1 hvalid
  rw [Participant.seeded_p]
  exact hstake

/-- **Becoming a validator.** -/
theorem drives_becomeValidator (hserved : node.Served amounts h)
    (hvalid : amounts.validateStake = .ok ()) (hseed : 0 < amounts.seed.toNat)
    (hx : h.x node.xAddress = amounts.total.toNat) (hp : h.p node.pAddress = 0)
    (hpending : h.pending node.pAddress = 0)
    (hfits : node.settings.schedule.Fits node.settings.schedule.validationPeriod epoch now) :
    Drives epoch base (node.becomeValidator amounts) now h fun _ later left =>
      later = node.settings.schedule.begun now
        ∧ left = node.validating amounts ⟨epoch.nanos + now.nanos⟩ h := by
  obtain ⟨hrest, hrestn⟩ := StakeAmounts.pAfterStake_of_valid hvalid
  have hquiet := hserved.quiet
  unfold Participant.becomeValidator
  refine drives_seedAndRequest hserved hvalid hseed hx hp hpending hfits ?_
  refine Drives.bind (drives_step (fun _ => rfl)
    (Ledger.turns_addValidator hquiet hserved.known.pFirst (stake_le_seeded hvalid))) ?_
  rintro tx now left ⟨rfl, hleft⟩
  simp only [Participant.seeded, Function.update_self, Function.update_idem] at hleft
  obtain rfl : left = node.validating amounts ⟨epoch.nanos + now.nanos⟩ h := hleft
  refine drives_awaitStake (.of_quiet hquiet) hfits (Drives.bind drives_validators ?_)
  rintro _ _ _ ⟨rfl, rfl, rfl⟩
  -- the participant is the last one that was listed
  rw [if_pos (by simp [Participant.validating, Ledger.validatorOf, Participant.requestAt])]
  refine Drives.ofChecked_bind hrest (drives_expect ?_)
  rw [hrestn]
  exact Function.update_self _ _ _

/-- **Becoming a delegator.** -/
theorem drives_becomeDelegator {validator : String} (hserved : node.Served amounts h)
    (hvalid : amounts.validateStake = .ok ()) (hseed : 0 < amounts.seed.toNat)
    (hx : h.x node.xAddress = amounts.total.toNat) (hp : h.p node.pAddress = 0)
    (hpending : h.pending node.pAddress = 0)
    (hfits : node.settings.schedule.Fits node.settings.schedule.delegationPeriod epoch now) :
    Drives epoch base (node.becomeDelegator amounts validator) now h fun _ later left =>
      later = node.settings.schedule.begun now
        ∧ left = node.delegating amounts validator ⟨epoch.nanos + now.nanos⟩ h := by
  obtain ⟨hrest, hrestn⟩ := StakeAmounts.pAfterStake_of_valid hvalid
  have hquiet := hserved.quiet
  unfold Participant.becomeDelegator
  refine drives_seedAndRequest hserved hvalid hseed hx hp hpending hfits ?_
  refine Drives.bind (drives_step (fun _ => rfl)
    (Ledger.turns_addDelegator (.of_quiet hquiet) hserved.known.pFirst (stake_le_seeded hvalid))) ?_
  rintro tx now left ⟨rfl, hleft⟩
  simp only [Participant.seeded, Function.update_self, Function.update_idem] at hleft
  obtain rfl : left = node.delegating amounts validator ⟨epoch.nanos + now.nanos⟩ h := hleft
  refine drives_awaitStake (.of_quiet hquiet) hfits (Drives.ofChecked_bind hrest (drives_expect ?_))
  rw [hrestn]
  exact Function.update_self _ _ _

/-! ## The way back -/

/-- **Bringing back what is not bonded.** -/
theorem drives_returnLeftover (hknown : node.KnownTo h.registry)
    (hsettled : h.outlook.Settled) (hfee : h.fee = amounts.fee.toNat)
    (hvalid : amounts.validateLeftover = .ok ())
    (hseed : amounts.stake.toNat + 2 * amounts.fee.toNat < amounts.seed.toNat)
    (hx : h.x node.xAddress
      = amounts.total.toNat - amounts.seed.toNat - 2 * amounts.fee.toNat)
    (hp : h.p node.pAddress = amounts.seed.toNat - amounts.stake.toNat)
    (hpending : h.pending node.xAddress = 0) :
    Drives epoch base (node.returnLeftover amounts) now h fun _ later left =>
      later = now ∧ left = node.returned amounts h := by
  obtain ⟨huser, hxFirst, hpFirst⟩ := hknown
  obtain ⟨hvalidStake, -⟩ := StakeAmounts.validateLeftover_eq_ok_iff.1 hvalid
  obtain ⟨hcovered, -⟩ := StakeAmounts.validateStake_eq_ok_iff.1 hvalidStake
  obtain ⟨hexport, hexportn⟩ := StakeAmounts.leftoverExport_of_valid hvalid
  obtain ⟨held, hheld, hheldn⟩ := StakeAmounts.xAfterLeftover_of_valid hvalid
  have htotal := amounts.total.toNat_lt
  unfold Participant.returnLeftover
  refine Drives.ofExcept_bind (by rw [hvalid]; rfl) (Drives.ofChecked_bind hexport ?_)
  -- from here on only the size of the export counts
  generalize amounts.seed - amounts.stake - amounts.fee = exported at hexportn ⊢
  have hfunds : exported.toNat + h.fee ≤ h.p node.pAddress := by omega
  have hfits : h.pending node.xAddress + exported.toNat < 2 ^ 64 := by omega
  refine Drives.bind (drives_step (fun _ => rfl)
    (Ledger.turns_pExport hsettled hpFirst hfunds hfits)) ?_
  rintro _ _ _ ⟨rfl, rfl⟩
  refine Drives.bind (drives_awaitTx (by decide) hsettled) ?_
  rintro _ _ _ ⟨rfl, rfl⟩
  have harrives : h.fee < Function.update h.pending node.xAddress
      (h.pending node.xAddress + exported.toNat) node.xAddress := by
    rw [Function.update_self]
    omega
  have hroom : h.x node.xAddress + (Function.update h.pending node.xAddress
      (h.pending node.xAddress + exported.toNat) node.xAddress - h.fee) < 2 ^ 64 := by
    rw [Function.update_self]
    omega
  refine Drives.bind (drives_step (fun _ => rfl)
    (Ledger.turns_xImport hsettled huser harrives hroom)) ?_
  rintro _ _ left ⟨rfl, hleft⟩
  have hpleft : h.p node.pAddress - (exported.toNat + h.fee) = 0 := by omega
  have hxleft : h.x node.xAddress + (h.pending node.xAddress + exported.toNat - h.fee)
      = amounts.total.toNat - amounts.stake.toNat - 4 * amounts.fee.toNat := by omega
  simp only [Function.update_self, Holdings.update_pending hpending, hxleft, hpleft] at hleft
  obtain rfl : left = node.returned amounts h := hleft
  refine Drives.bind (drives_awaitTx (by decide) hsettled) ?_
  rintro _ _ _ ⟨rfl, rfl⟩
  refine Drives.bind (drives_expect (Function.update_self _ _ _)) ?_
  rintro _ _ _ ⟨rfl, rfl⟩
  refine Drives.ofChecked_bind hheld (drives_expect ?_)
  rw [hheldn]
  exact Function.update_self _ _ _

end LocalNetwork

end LedgerNet
