import LedgerNet.Proofs.Ledger.Writing
import LedgerNet.Proofs.LocalNetwork.Stages

/-!
# What a stake that was made has left

A participant compares its balances on the way, so from the success of a run
one can tell where it began: the participant held the total, nothing was on
the platform lane and nothing on its way there. `Leaves` follows a run from
success to success, and what it says of a whole stake (`Staked`) needs no
condition on balances, only that the ledger knows the participant, that
nothing is in store for its transactions and that the fee is the one it
reckons with.

Beside the holdings this is about the histories: two balances are written down
under the platform address, the one after the seed and the one after the
stake, and one under the exchange address.
-/

namespace LedgerNet

namespace Ledger

/-- **Nothing was written** on a ledger: the holdings and the histories are
what they were. -/
structure Unwritten (ledger left : Ledger) : Prop where
  holdings_eq : left.holdings = ledger.holdings
  past_eq : left.past = ledger.past

end Ledger

namespace LocalNetwork

variable {ε δ α β : Type} (epoch : Duration) (base : LocalNetwork)

/-- **What a program leaves if it succeeds**: a result and a ledger as
described, on a network that is otherwise what it was. -/
def Leaves (p : Attempt (Timed (Clients LocalClient)) ε α) (ledger : Ledger)
    (post : α → Ledger → Prop) : Prop :=
  ∀ now value t, p.runOn (Timeline.handler answer) (moment epoch base now ledger) = (.ok value, t) →
    ∃ later left, t = moment epoch base later left ∧ post value left

variable {epoch base} {p : Attempt (Timed (Clients LocalClient)) ε α}
  {next : α → Attempt (Timed (Clients LocalClient)) ε β} {ledger : Ledger}
  {post : α → Ledger → Prop} {after : β → Ledger → Prop}

namespace Leaves

/-- A program whose run is known. -/
theorem of_runOn {value : α} {left : Ledger}
    (hrun : ∀ now, p.runOn (Timeline.handler answer) (moment epoch base now ledger)
      = (.ok value, moment epoch base now left)) (hpost : post value left) :
    Leaves epoch base p ledger post := by
  intro now result t h
  obtain ⟨hvalue, rfl⟩ := Prod.mk.inj ((hrun now).symm.trans h)
  obtain rfl := Except.ok.inj hvalue
  exact ⟨now, left, rfl, hpost⟩

theorem of_pure {value : α} (hpost : post value ledger) :
    Leaves epoch base (pure value : Attempt (Timed (Clients LocalClient)) ε α) ledger post :=
  of_runOn (fun _ => rfl) hpost

/-- A failure leaves nothing to say. -/
theorem of_fail {cause : ε} :
    Leaves epoch base (Attempt.fail cause : Attempt (Timed (Clients LocalClient)) ε α) ledger
      post := by
  intro now value t h
  cases (Prod.mk.inj h).1

theorem mono {weaker : α → Ledger → Prop} (h : Leaves epoch base p ledger post)
    (hpost : ∀ value left, post value left → weaker value left) :
    Leaves epoch base p ledger weaker := by
  intro now value t hrun
  obtain ⟨later, left, ht, hvalue⟩ := h now value t hrun
  exact ⟨later, left, ht, hpost value left hvalue⟩

/-- **One step after another**: if both succeed, so did the first one. -/
theorem bind (h : Leaves epoch base p ledger post)
    (hnext : ∀ value left, post value left → Leaves epoch base (next value) left after) :
    Leaves epoch base (p >>= next) ledger after := by
  intro now result t hrun
  rw [Attempt.runOn_bind] at hrun
  rcases hp : p.runOn (Timeline.handler answer) (moment epoch base now ledger)
    with ⟨_ | value, between⟩ <;> rw [hp] at hrun
  · cases (Prod.mk.inj hrun).1
  · obtain ⟨later, left, rfl, hpost⟩ := h now value between hp
    exact hnext value left hpost later result t hrun

theorem wrap {f : ε → δ} (h : Leaves epoch base p ledger post) :
    Leaves epoch base (p.wrap f) ledger post := by
  intro now value t hrun
  rw [Attempt.runOn_wrap] at hrun
  rcases hp : p.runOn (Timeline.handler answer) (moment epoch base now ledger)
    with ⟨_ | value', between⟩ <;> rw [hp] at hrun <;> obtain ⟨hvalue, rfl⟩ := Prod.mk.inj hrun
  · cases hvalue
  · obtain rfl := Except.ok.inj hvalue
    exact h now _ _ hp

/-- A computation that had a value, and what comes after it. -/
theorem ofChecked_bind {checked : Checked α}
    (hnext : ∀ value, checked = .ok value → Leaves epoch base (next value) ledger after) :
    Leaves epoch base (Attempt.ofChecked checked >>= next) ledger after := by
  cases checked with
  | ok value => exact hnext value rfl
  | error cause =>
    intro now result t hrun
    cases (Prod.mk.inj hrun).1

/-- A check that was passed, and what comes after it. -/
theorem ofExcept_bind {f : δ → ε} {result : Except δ α}
    (hnext : ∀ value, result = .ok value → Leaves epoch base (next value) ledger after) :
    Leaves epoch base (Attempt.ofExcept (result.mapError f) >>= next) ledger after := by
  cases result with
  | ok value => exact hnext value rfl
  | error cause =>
    intro now result t hrun
    cases (Prod.mk.inj hrun).1

theorem elapsed_bind {next : Duration → Attempt (Timed (Clients LocalClient)) ε β}
    (hnext : ∀ instant, Leaves epoch base (next instant) ledger after) :
    Leaves epoch base (elapsed >>= next) ledger after :=
  fun now result t hrun => hnext now now result t hrun

theorem timeOfDay_bind {next : Duration → Attempt (Timed (Clients LocalClient)) ε β}
    (hnext : ∀ instant, Leaves epoch base (next instant) ledger after) :
    Leaves epoch base (timeOfDay >>= next) ledger after :=
  fun now result t hrun => hnext ⟨epoch.nanos + now.nanos⟩ now result t hrun

theorem sleep (d : Duration) :
    Leaves epoch base (sleep d : Attempt (Timed (Clients LocalClient)) ε Unit) ledger
      fun _ left => left = ledger := by
  intro now value t hrun
  obtain ⟨-, rfl⟩ := Prod.mk.inj hrun
  exact ⟨_, ledger, rfl, rfl⟩

/-- **A call that is about the ledger.** -/
theorem step {client : LocalClient} {call : Call} {action : LedgerAction call.Result}
    {post : call.Result → Ledger → Prop}
    (hanswer : ∀ network, answer (client, call) network = onLedger action network)
    (haction : Ledger.Leaves action ledger post) :
    Leaves epoch base (stepCall client call) ledger post := by
  refine wrap fun now value t hrun => ?_
  rcases haction' : action.run.run ledger with ⟨outcome, left⟩
  rw [runOn_call client call hanswer haction'] at hrun
  obtain ⟨rfl, rfl⟩ := Prod.mk.inj hrun
  exact ⟨now, left, rfl, haction.of_run haction'⟩

end Leaves

/-! ## The parts of a stake -/

variable {node : Participant LocalClient} {amounts : StakeAmounts} {settings : PollSettings}
  {lane : Lane} {tx : TxId}

/-- A wait for a transaction that nothing is in store for. -/
theorem leaves_awaitTx (hlane : lane ≠ .c) (hsettled : ledger.holdings.outlook.Settled) :
    Leaves epoch base (node.awaitTx lane tx settings) ledger fun _ left =>
      ledger.Unwritten left :=
  .wrap (.of_runOn (fun _ => runOn_await hlane hsettled) ⟨rfl, rfl⟩)

/-- A comparison that was passed. -/
theorem leaves_expect {expected : Amount} :
    Leaves epoch base (node.expect lane expected) ledger fun _ left =>
      ledger.holdings.on lane (node.addressOn lane) = expected.toNat ∧ left = ledger := by
  refine .wrap fun now value t hrun => ?_
  unfold Participant.balances at hrun
  rw [runOn_check] at hrun
  obtain ⟨hvalue, rfl⟩ := Prod.mk.inj hrun
  split at hvalue
  · rename_i hbalance
    exact ⟨now, ledger, rfl, hbalance, rfl⟩
  · cases hvalue

/-- **A transaction that is handed in and awaited**: the wait writes nothing,
and nothing comes into store for the next ones. -/
theorem leaves_settled {handIn : Attempt (Timed (Clients LocalClient)) StakingError TxId}
    {next : Unit → Attempt (Timed (Clients LocalClient)) StakingError β}
    {post : TxId → Ledger → Prop}
    (hlane : lane ≠ .c) (hsettled : ledger.holdings.outlook.Settled)
    (hhandIn : Leaves epoch base handIn ledger post)
    (houtlook : ∀ tx left, post tx left → left.holdings.outlook = ledger.holdings.outlook)
    (hnext : ∀ tx submitted left, post tx submitted → submitted.Unwritten left →
      left.holdings.outlook.Settled → Leaves epoch base (next ()) left after) :
    Leaves epoch base (handIn >>= fun tx => node.awaitTx lane tx settings >>= next) ledger
      after := by
  refine .bind hhandIn fun tx submitted hsubmitted => ?_
  have hsettledLeft : submitted.holdings.outlook.Settled := by
    rw [houtlook tx submitted hsubmitted]
    exact hsettled
  refine .bind (leaves_awaitTx hlane hsettledLeft) fun _ left hleft => ?_
  refine hnext tx submitted left hsubmitted hleft ?_
  rw [hleft.holdings_eq]
  exact hsettledLeft

/-- **Both balances compared**, the second one with an amount that is there. -/
theorem leaves_compared {expected held : Amount} {checked : Checked Amount}
    (hheld : checked = .ok held) :
    Leaves epoch base (node.expect .p expected >>= fun _ =>
      Attempt.ofChecked checked >>= fun held => node.expect .x held) ledger fun _ left =>
      ledger.holdings.p node.pAddress = expected.toNat
        ∧ ledger.holdings.x node.xAddress = held.toNat ∧ left = ledger := by
  refine .bind leaves_expect ?_
  rintro _ _ ⟨hp, rfl⟩
  refine .ofChecked_bind fun value hvalue => ?_
  obtain rfl := Except.ok.inj (hheld.symm.trans hvalue)
  exact leaves_expect.mono fun _ _ ⟨hx, hleft⟩ => ⟨hp, hx, hleft⟩

/-- The validators that a node reports. -/
theorem leaves_validators :
    Leaves epoch base (node.call .validators) ledger fun _ left => left = ledger := by
  have hrun : ∀ now, (callNode node.client .validators).runOn (Timeline.handler answer)
      (moment epoch base now ledger) = (.ok ledger.validators, moment epoch base now ledger) :=
    fun _ => rfl
  exact .wrap (.of_runOn hrun rfl)

/-- A request asks for what it is to ask for. -/
theorem leaves_stakeRequest {nodeId : String} {amount : Amount} {period : Duration} :
    Leaves epoch base (node.stakeRequest nodeId amount period) ledger fun requested left =>
      requested.1.stake = amount ∧ left = ledger :=
  .timeOfDay_bind fun _ => .ofChecked_bind fun _ _ => .ofChecked_bind fun _ _ =>
    .elapsed_bind fun _ => .ofChecked_bind fun _ _ => .of_pure ⟨rfl, rfl⟩

theorem leaves_awaitBegin {begins : Duration} :
    Leaves epoch base (node.awaitBegin begins) ledger fun _ left => left = ledger :=
  .ofChecked_bind fun _ _ => .elapsed_bind fun _ => .sleep _

end LocalNetwork

/-! ## Whole stakes -/

namespace Participant

variable (node : Participant LocalClient) (amounts : StakeAmounts)

/-- The histories when the seed has arrived. -/
def pastOfSeed (past : String → List Amount) : String → List Amount :=
  let paid := Function.update past node.xAddress
    (past node.xAddress ++ [amounts.total - amounts.seed - 2 * amounts.fee])
  Function.update paid node.pAddress (paid node.pAddress ++ [amounts.seed])

/-- The histories when the stake is bonded. -/
def pastOfStake (past : String → List Amount) : String → List Amount :=
  let seeded := node.pastOfSeed amounts past
  Function.update seeded node.pAddress (seeded node.pAddress ++ [amounts.seed - amounts.stake])

/-- **A seed that has arrived**: the participant held the total and nothing
else, and holds what it reckoned with. -/
structure Seeding (ledger left : Ledger) : Prop where
  valid : amounts.validateStake = .ok ()
  seed_pos : 0 < amounts.seed.toNat
  total : ledger.holdings.x node.xAddress = amounts.total.toNat
  holdings_eq : left.holdings = node.seeded amounts ledger.holdings
  past_eq : left.past = node.pastOfSeed amounts ledger.past

/-- Nothing comes into store for transactions by a seed. -/
theorem Seeding.settled {node : Participant LocalClient} {amounts : StakeAmounts}
    {ledger left : Ledger} (h : node.Seeding amounts ledger left)
    (hsettled : ledger.holdings.outlook.Settled) : left.holdings.outlook.Settled := by
  rw [h.holdings_eq]
  exact hsettled

/-- **A stake that was made**: it is bonded out of a seed, and but for the list
that it is on nothing else has changed. -/
structure Staked (ledger left : Ledger) : Prop where
  valid : amounts.validateStake = .ok ()
  holdings_eq : left.holdings = { node.bonded amounts ledger.holdings with
    validators := left.validators, delegations := left.delegations }
  past_eq : left.past = node.pastOfStake amounts ledger.past

/-- Nothing is changed of a stake where nothing is written. -/
theorem Staked.unwritten {node : Participant LocalClient} {amounts : StakeAmounts}
    {ledger middle left : Ledger} (h : node.Staked amounts ledger middle)
    (hleft : middle.Unwritten left) : node.Staked amounts ledger left where
  valid := h.valid
  holdings_eq := by
    rw [show left.validators = middle.validators from congrArg Holdings.validators
        hleft.holdings_eq,
      show left.delegations = middle.delegations from congrArg Holdings.delegations
        hleft.holdings_eq]
    exact hleft.holdings_eq.trans h.holdings_eq
  past_eq := hleft.past_eq.trans h.past_eq

end Participant

namespace LocalNetwork

variable {epoch : Duration} {base : LocalNetwork} {ledger : Ledger}
  {node : Participant LocalClient} {amounts : StakeAmounts} {settings : PollSettings}

/-- **What a seed leaves.** -/
theorem leaves_seed (hknown : node.KnownTo ledger.registry)
    (hsettled : ledger.holdings.outlook.Settled)
    (hfee : ledger.holdings.fee = amounts.fee.toNat) :
    Leaves epoch base (node.seed amounts settings) ledger fun _ left =>
      node.Seeding amounts ledger left := by
  obtain ⟨-, hxFirst, -⟩ := hknown
  unfold Participant.seed
  refine .ofExcept_bind fun _ hvalid => ?_
  obtain ⟨hcovered, hstake⟩ := StakeAmounts.validateStake_eq_ok_iff.1 hvalid
  obtain ⟨hexport, hexportn⟩ := StakeAmounts.seedExport_of_valid hvalid
  obtain ⟨hafter, haftern⟩ := StakeAmounts.xAfterSeed_of_valid hvalid
  refine .ofChecked_bind fun exported hexported => ?_
  obtain rfl := Except.ok.inj (hexport.symm.trans hexported)
  refine leaves_settled (by decide) hsettled (.step (fun _ => rfl) (Ledger.leaves_xExport hsettled))
    (fun _ _ ⟨_, _, _, _, hpaid, _⟩ => by rw [hpaid]) ?_
  rintro _ paid waited ⟨source, rest, hsource, hrest, hpaid, hpastPaid⟩ ⟨hwaited, hpastWaited⟩
    hsettledWaited
  obtain rfl : node.xAddress = source := Option.some.inj (hxFirst.symm.trans hsource)
  rw [hpaid] at hwaited
  rw [hpastPaid] at hpastWaited
  refine leaves_settled (by decide) hsettledWaited
    (.step (fun _ => rfl) (Ledger.leaves_pImport hsettledWaited))
    (fun _ _ ⟨_, _, _, harrived, _⟩ => by rw [harrived]) ?_
  rintro _ arrived settled ⟨balance, hpending, hbalance, harrived, hpastArrived⟩
    ⟨hsettledHoldings, hsettledPast⟩ -
  rw [hwaited] at hpending hbalance harrived
  rw [hpastWaited] at hpastArrived
  rw [harrived] at hsettledHoldings
  rw [hpastArrived] at hsettledPast
  simp only [Function.update_self] at hpending hbalance
  refine (leaves_compared hafter).mono ?_
  rintro _ settled ⟨hp, hx, rfl⟩
  -- what was compared is what the two calls have left
  rw [hsettledHoldings] at hp hx
  have hbalanceEq : balance = amounts.seed :=
    UInt64.toNat_inj.1 ((Function.update_self _ _ _).symm.trans hp)
  have hrestEq : rest = amounts.total - amounts.seed - 2 * amounts.fee :=
    UInt64.toNat_inj.1 ((Function.update_self _ _ _).symm.trans hx)
  subst hbalanceEq hrestEq
  have hnothing : ledger.holdings.pending node.pAddress = 0 := by omega
  refine ⟨hvalid, by omega, by omega, ?_, hsettledPast⟩
  rw [hsettledHoldings]
  simp only [Holdings.update_pending hnothing]
  rw [haftern]
  rfl

/-- **What a bonded stake leaves** of a seed. -/
theorem staked_of_bonded {request : StakeRequest} {seeded left : Ledger}
    (hknown : node.KnownTo ledger.registry) (hseeded : node.Seeding amounts ledger seeded)
    (hstake : request.stake = amounts.stake)
    (hbonded : seeded.Bonded node.user request.stake left) : node.Staked amounts ledger left := by
  obtain ⟨source, balance, hsource, hbalance, hholdings, hpast⟩ := hbonded
  rw [hseeded.holdings_eq] at hsource hbalance hholdings
  rw [hseeded.past_eq] at hpast
  obtain rfl : node.pAddress = source := Option.some.inj (hknown.pFirst.symm.trans hsource)
  obtain ⟨hrest, hrestn⟩ := StakeAmounts.pAfterStake_of_valid hseeded.valid
  rw [Participant.seeded_p, hstake] at hbalance
  have hbalanceEq : balance = amounts.seed - amounts.stake :=
    UInt64.toNat_inj.1 (by omega)
  subst hbalanceEq
  refine ⟨hseeded.valid, ?_, hpast⟩
  rw [hholdings, hrestn]
  simp only [Participant.seeded, Participant.bonded, Function.update_idem]

/-- **Every stake begins with the seed** and a request for the stake. -/
theorem leaves_seedAndRequest {nodeId : String} {period : Duration}
    {next : StakeRequest × Duration → Attempt (Timed (Clients LocalClient)) StakingError Unit}
    {after : Unit → Ledger → Prop} (hknown : node.KnownTo ledger.registry)
    (hsettled : ledger.holdings.outlook.Settled)
    (hfee : ledger.holdings.fee = amounts.fee.toNat)
    (hnext : ∀ request begins seeded, node.Seeding amounts ledger seeded →
      request.stake = amounts.stake → Leaves epoch base (next (request, begins)) seeded after) :
    Leaves epoch base (node.seed amounts settings >>= fun _ =>
      node.stakeRequest nodeId amounts.stake period >>= next) ledger after := by
  refine .bind (leaves_seed hknown hsettled hfee) fun _ seeded hseeded => ?_
  refine .bind leaves_stakeRequest ?_
  rintro ⟨request, begins⟩ _ ⟨hstake, rfl⟩
  exact hnext request begins _ hseeded hstake

/-- **Every stake is waited for**, which changes nothing of it. -/
theorem leaves_awaitStake {tx : TxId} {begins : Duration} {bonded : Ledger}
    {next : Unit → Attempt (Timed (Clients LocalClient)) StakingError Unit}
    {after : Unit → Ledger → Prop} (hsettled : ledger.holdings.outlook.Settled)
    (hbonded : node.Staked amounts ledger bonded)
    (hnext : ∀ left, node.Staked amounts ledger left → Leaves epoch base (next ()) left after) :
    Leaves epoch base (node.awaitTx .p tx settings >>= fun _ =>
      node.awaitBegin begins >>= next) bonded after := by
  have hsettledBond : bonded.holdings.outlook.Settled := by
    rw [hbonded.holdings_eq]
    exact hsettled
  refine .bind (leaves_awaitTx (by decide) hsettledBond) fun _ waited hwaited => ?_
  refine .bind leaves_awaitBegin ?_
  rintro _ _ rfl
  exact hnext _ (hbonded.unwritten hwaited)

/-- **What becoming a validator leaves.** -/
theorem leaves_becomeValidator (hknown : node.KnownTo ledger.registry)
    (hsettled : ledger.holdings.outlook.Settled)
    (hfee : ledger.holdings.fee = amounts.fee.toNat) :
    Leaves epoch base (node.becomeValidator amounts) ledger fun _ left =>
      node.Staked amounts ledger left := by
  unfold Participant.becomeValidator
  refine leaves_seedAndRequest hknown hsettled hfee fun request begins seeded hseeded hstake => ?_
  refine .bind (.step (fun _ => rfl) (Ledger.leaves_addValidator (hseeded.settled hsettled)))
    fun tx bonded hbonded => ?_
  refine leaves_awaitStake hsettled (staked_of_bonded hknown hseeded hstake hbonded)
    fun left hleft => ?_
  -- the list of validators and the last comparison only look at the ledger
  refine .bind leaves_validators ?_
  rintro validators _ rfl
  split
  · exact .ofChecked_bind fun _ _ => leaves_expect.mono fun _ _ h => h.2 ▸ hleft
  · exact .of_fail

/-- **What becoming a delegator leaves.** -/
theorem leaves_becomeDelegator {validator : String} (hknown : node.KnownTo ledger.registry)
    (hsettled : ledger.holdings.outlook.Settled)
    (hfee : ledger.holdings.fee = amounts.fee.toNat) :
    Leaves epoch base (node.becomeDelegator amounts validator) ledger fun _ left =>
      node.Staked amounts ledger left := by
  unfold Participant.becomeDelegator
  refine leaves_seedAndRequest hknown hsettled hfee fun request begins seeded hseeded hstake => ?_
  refine .bind (.step (fun _ => rfl) (Ledger.leaves_addDelegator (hseeded.settled hsettled)))
    fun tx bonded hbonded => ?_
  refine leaves_awaitStake hsettled (staked_of_bonded hknown hseeded hstake hbonded)
    fun left hleft => ?_
  exact .ofChecked_bind fun _ _ => leaves_expect.mono fun _ _ h => h.2 ▸ hleft

/-- **What bringing back the rest leaves** of a stake: it succeeds only if
nothing else was on its way and the rest is more than its fees. -/
theorem leaves_returnLeftover (hknown : node.KnownTo ledger.registry)
    (hsettled : ledger.holdings.outlook.Settled)
    (hfee : ledger.holdings.fee = amounts.fee.toNat)
    (hx : ledger.holdings.x node.xAddress
      = amounts.total.toNat - amounts.seed.toNat - 2 * amounts.fee.toNat) :
    Leaves epoch base (node.returnLeftover amounts) ledger fun _ left =>
      ledger.holdings.pending node.xAddress = 0
        ∧ amounts.stake.toNat + 2 * amounts.fee.toNat < amounts.seed.toNat
        ∧ left.holdings = node.returned amounts ledger.holdings := by
  obtain ⟨-, -, hpFirst⟩ := hknown
  unfold Participant.returnLeftover
  refine .ofExcept_bind fun _ hvalid => ?_
  obtain ⟨hvalidStake, hcovered⟩ := StakeAmounts.validateLeftover_eq_ok_iff.1 hvalid
  obtain ⟨htotal, hstake⟩ := StakeAmounts.validateStake_eq_ok_iff.1 hvalidStake
  obtain ⟨hexport, hexportn⟩ := StakeAmounts.leftoverExport_of_valid hvalid
  obtain ⟨held, hheld, hheldn⟩ := StakeAmounts.xAfterLeftover_of_valid hvalid
  refine .ofChecked_bind fun exported hexported => ?_
  obtain rfl := Except.ok.inj (hexport.symm.trans hexported)
  refine leaves_settled (by decide) hsettled (.step (fun _ => rfl) (Ledger.leaves_pExport hsettled))
    (fun _ _ ⟨_, _, _, _, hpaid⟩ => by rw [hpaid]) ?_
  rintro _ paid waited ⟨source, rest, hsource, hrest, hpaid⟩ ⟨hwaited, -⟩ hsettledWaited
  obtain rfl : node.pAddress = source := Option.some.inj (hpFirst.symm.trans hsource)
  rw [hpaid] at hwaited
  refine leaves_settled (by decide) hsettledWaited
    (.step (fun _ => rfl) (Ledger.leaves_xImport hsettledWaited))
    (fun _ _ ⟨_, _, _, harrived⟩ => by rw [harrived]) ?_
  rintro _ arrived settled ⟨balance, hpending, hbalance, harrived⟩ ⟨hsettledHoldings, -⟩ -
  rw [hwaited] at hpending hbalance harrived
  rw [harrived] at hsettledHoldings
  simp only [Function.update_self] at hpending hbalance
  refine (leaves_compared hheld).mono ?_
  rintro _ settled ⟨hp, hxheld, rfl⟩
  -- what was compared is what the two calls have left
  rw [hsettledHoldings] at hp hxheld
  have hrestEq : rest.toNat = 0 := (Function.update_self _ _ _).symm.trans hp
  have hbalanceEq : balance.toNat = held.toNat := (Function.update_self _ _ _).symm.trans hxheld
  have hnothing : ledger.holdings.pending node.xAddress = 0 := by omega
  refine ⟨hnothing, by omega, ?_⟩
  rw [hsettledHoldings]
  simp only [Holdings.update_pending hnothing]
  rw [hrestEq, hbalanceEq, hheldn]
  rfl

end LocalNetwork

end LedgerNet
