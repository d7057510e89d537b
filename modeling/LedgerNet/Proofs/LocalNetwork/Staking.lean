import LedgerNet.Proofs.LocalNetwork.Stages

/-!
# Staking on a network in memory

Two participants are entered, the funder pays both, and then one of them
becomes a validator and the other one its delegator, until both have brought
back what they did not bond. The addresses of the two and the one of the
funder are different ones, so no stage touches what another one compares.
-/

namespace LedgerNet

/-! ## Who is entered -/

namespace Registry

/-- The registry with a user more, who has one address on each lane. -/
def entering (registry : Registry) (user : User) : Registry :=
  { registry with
    users := registry.users ++ [user.name]
    xAddresses := Function.update registry.xAddresses user.name [Ledger.newAddress .x user []]
    pAddresses := Function.update registry.pAddresses user.name [Ledger.newAddress .p user []] }

/-- Entering a user changes no other one's addresses. -/
theorem entering_of_ne (registry : Registry) {user : User} {other : String}
    (h : other ≠ user.name) :
    (registry.entering user).xAddresses other = registry.xAddresses other
      ∧ (registry.entering user).pAddresses other = registry.pAddresses other :=
  ⟨Function.update_of_ne h _ _, Function.update_of_ne h _ _⟩

/-- The registry with a user more, who has the address with the first
funds. -/
def funding (registry : Registry) (user : User) : Registry :=
  { registry with
    users := registry.users ++ [user.name]
    xAddresses := Function.update registry.xAddresses user.name
      (registry.fundedAddress :: registry.xAddresses user.name) }

end Registry

/-- The holdings with another registry. -/
def Holdings.known (h : Holdings) (registry : Registry) : Holdings := { h with registry }

/-- **A running node as a participant**, with the first addresses of its
user. -/
def TrackedNode.enrolled (tracked : TrackedNode LocalClient) (user : User)
    (settings : StakingSettings) : Participant LocalClient where
  id := tracked.id
  ip := tracked.ip
  client := tracked.client
  user := user
  nodeId := LocalNetwork.nodeIdOf tracked.client.service
  xAddress := Ledger.newAddress .x user []
  pAddress := Ledger.newAddress .p user []
  settings := settings

namespace LocalNetwork

variable {epoch : Duration} {base : LocalNetwork} {now : Duration} {h : Holdings} {user : User}
  {amounts : StakeAmounts} {settings : StakingSettings}

/-- **Entering a participant.** -/
theorem drives_enroll {tracked : TrackedNode LocalClient}
    (hnew : user.name ∉ h.registry.users) (hx : h.registry.xAddresses user.name = [])
    (hp : h.registry.pAddresses user.name = []) :
    Drives epoch base (Participant.enroll tracked user settings) now h fun node later left =>
      node = tracked.enrolled user settings ∧ later = now
        ∧ left = h.known (h.registry.entering user) := by
  have hnodeId : Drives epoch base (stepCall tracked.client .nodeId) now h
      fun nodeId later left =>
        later = now ∧ nodeId = nodeIdOf tracked.client.service ∧ left = h := by
    refine Drives.wrap (drives_callNode fun ledger hledger => ?_)
    exact ⟨_, ledger, rfl, rfl, hledger⟩
  refine Drives.bind hnodeId ?_
  rintro _ now h ⟨rfl, rfl, rfl⟩
  refine Drives.bind (drives_step (fun _ => rfl) (Ledger.turns_createUser hnew)) ?_
  rintro _ _ _ ⟨rfl, rfl⟩
  have hknown : user.name ∈ h.registry.users ++ [user.name] := by simp
  refine Drives.bind (drives_step (fun _ => rfl) (Ledger.turns_xCreateAddress hknown)) ?_
  rintro _ _ _ ⟨rfl, rfl, rfl⟩
  refine Drives.bind (drives_step (fun _ => rfl) (Ledger.turns_pCreateAddress hknown)) ?_
  rintro _ _ _ ⟨rfl, rfl, rfl⟩
  refine Drives.of_pure ⟨?_, rfl, ?_⟩
  · simp only [hx, hp]
    rfl
  · simp only [hx, hp]
    rfl

/-- **Making a node the funder.** -/
theorem drives_importFunds {id key : String} {client : LocalClient}
    (hnew : user.name ∉ h.registry.users) (hkey : key = h.registry.fundedKey) :
    Drives epoch base (Funder.importFunds id client user key settings) now h
      fun funder later left =>
        funder = ⟨id, client, user, key, h.registry.fundedAddress, settings⟩ ∧ later = now
          ∧ left = h.known (h.registry.funding user) := by
  refine Drives.bind (drives_step (fun _ => rfl) (Ledger.turns_createUser hnew)) ?_
  rintro _ _ _ ⟨rfl, rfl⟩
  have hknown : user.name ∈ h.registry.users ++ [user.name] := by simp
  refine Drives.bind (drives_step (fun _ => rfl) (Ledger.turns_xImportKey hknown hkey)) ?_
  rintro _ _ _ ⟨rfl, rfl, rfl⟩
  exact Drives.of_pure ⟨rfl, rfl, rfl⟩

/-- A payment of the funder settles at once. -/
theorem drives_awaitX {funder : Funder LocalClient} {tx : TxId} (hsettled : h.outlook.Settled) :
    Drives epoch base (funder.awaitX tx) now h fun _ later left => later = now ∧ left = h :=
  (drives_await (by decide) hsettled).wrap

/-- **Paying an address that holds nothing.** -/
theorem drives_fundX {funder : Funder LocalClient} {amount : Amount} {address : String}
    (hsettled : h.outlook.Settled)
    (hsource : (h.registry.xAddresses funder.user.name).head? = some funder.address)
    (hne : address ≠ funder.address) (hfunds : amount.toNat + h.fee ≤ h.x funder.address)
    (hempty : h.x address = 0) :
    Drives epoch base (funder.fundX amount address) now h fun _ later left =>
      later = now ∧ left = { h with
        x := Function.update
          (Function.update h.x funder.address (h.x funder.address - (amount.toNat + h.fee)))
          address amount.toNat } := by
  have hfits : h.x address + amount.toNat < 2 ^ 64 := by
    rw [hempty, Nat.zero_add]
    exact amount.toNat_lt
  refine Drives.bind (drives_step (fun _ => rfl)
    (Ledger.turns_xSend hsettled hsource hne hfunds hfits)) ?_
  rintro tx _ left ⟨rfl, hleft⟩
  rw [hempty, Nat.zero_add] at hleft
  subst hleft
  refine Drives.bind (drives_awaitX hsettled) ?_
  rintro _ _ _ ⟨rfl, rfl⟩
  refine Drives.wrap (drives_check ?_)
  exact Function.update_self _ _ _

/-! ## The staking itself -/

/-- **The addresses of a run are different ones.** -/
structure Apart (validator delegator : Participant LocalClient) (funded : String) : Prop where
  x_ne : validator.xAddress ≠ delegator.xAddress
  p_ne : validator.pAddress ≠ delegator.pAddress
  validator_ne : validator.xAddress ≠ funded
  delegator_ne : delegator.xAddress ≠ funded

/-- **What a run leaves behind**, if the funder began with some funds: the
two participants hold what they did not bond and pay, the funder has paid
both, and there is one stake of either kind. -/
structure Settlement (amounts : StakeAmounts) (validator delegator : Participant LocalClient)
    (funded : String) (funds : Nat) (left : Holdings) : Prop where
  validatorX : left.x validator.xAddress
    = amounts.total.toNat - amounts.stake.toNat - 4 * amounts.fee.toNat
  delegatorX : left.x delegator.xAddress
    = amounts.total.toNat - amounts.stake.toNat - 4 * amounts.fee.toNat
  validatorP : left.p validator.pAddress = 0
  delegatorP : left.p delegator.pAddress = 0
  funder : left.x funded = funds - 2 * (amounts.total.toNat + amounts.fee.toNat)
  validators : ∃ entry, left.validators = [entry] ∧ entry.nodeId = validator.nodeId
  delegations : ∃ request, left.delegations = [request]
    ∧ request.stake = amounts.stake ∧ request.nodeId = validator.nodeId

/-- **Paying two participants** that hold nothing. -/
theorem drives_fundBoth {funder : Funder LocalClient} {amount : Amount} {first second : String}
    (hsettled : h.outlook.Settled)
    (hsource : (h.registry.xAddresses funder.user.name).head? = some funder.address)
    (hne : first ≠ second) (hfirst : first ≠ funder.address) (hsecond : second ≠ funder.address)
    (hfunds : 2 * (amount.toNat + h.fee) ≤ h.x funder.address)
    (hfirstx : h.x first = 0) (hsecondx : h.x second = 0) :
    Drives epoch base (funder.fundXAddresses [first, second] amount) now h
      fun _ later left => later = now ∧ left = { h with
        x := Function.update (Function.update (Function.update h.x
          funder.address (h.x funder.address - 2 * (amount.toNat + h.fee)))
          first amount.toNat) second amount.toNat } := by
  have hpay : amount.toNat + h.fee ≤ h.x funder.address := by omega
  show Drives epoch base (funder.fundX amount first >>= fun _ =>
    funder.fundX amount second >>= fun _ => pure ()) now h _
  refine Drives.bind (drives_fundX hsettled hsource hfirst hpay hfirstx) ?_
  rintro _ now left ⟨rfl, hleft⟩
  -- what the funder holds after the first payment
  have hheld : left.x funder.address = h.x funder.address - (amount.toNat + h.fee) := by
    rw [hleft]
    simp only [Function.update_of_ne hfirst.symm, Function.update_self]
  have hempty : left.x second = 0 := by
    rw [hleft]
    simp only [Function.update_of_ne hne.symm, Function.update_of_ne hsecond, hsecondx]
  have hfee : left.fee = h.fee := by rw [hleft]
  have hpayAgain : amount.toNat + left.fee ≤ left.x funder.address := by
    rw [hheld, hfee]
    omega
  have hsourceAgain : (left.registry.xAddresses funder.user.name).head?
      = some funder.address := by
    rw [hleft]
    exact hsource
  refine Drives.bind (drives_fundX (by rw [hleft]; exact hsettled) hsourceAgain hsecond hpayAgain
    hempty) ?_
  rintro _ now _ ⟨rfl, rfl⟩
  refine Drives.of_pure ⟨rfl, ?_⟩
  have hrest : h.x funder.address - (amount.toNat + h.fee) - (amount.toNat + h.fee)
      = h.x funder.address - 2 * (amount.toNat + h.fee) := by omega
  rw [hheld, hfee, hrest, hleft]
  simp only [Function.update_comm hfirst, Function.update_idem]

/-- **Two participants are paid, stake and bring back the rest.** -/
theorem drives_staking {validator delegator : Participant LocalClient}
    {funder : Funder LocalClient} (hvalid : amounts.validate = .ok ())
    (hseed : amounts.stake.toNat + 2 * amounts.fee.toNat < amounts.seed.toNat)
    (hapart : Apart validator delegator funder.address)
    (hvalidator : validator.Served amounts h) (hdelegator : delegator.Served amounts h)
    (hfunder : (h.registry.xAddresses funder.user.name).head? = some funder.address)
    (hfunds : 2 * (amounts.total.toNat + amounts.fee.toNat) ≤ h.x funder.address)
    (hvx : h.x validator.xAddress = 0) (hdx : h.x delegator.xAddress = 0)
    (hp : ∀ address, h.p address = 0) (hpending : ∀ address, h.pending address = 0)
    (hvalidators : h.validators = []) (hdelegations : h.delegations = [])
    (hvfits : validator.settings.schedule.Fits validator.settings.schedule.validationPeriod
      epoch now)
    (hdfits : delegator.settings.schedule.Fits delegator.settings.schedule.delegationPeriod
      epoch (validator.settings.schedule.begun now)) :
    Drives epoch base (do
      funder.fundXAddresses [validator.xAddress, delegator.xAddress] amounts.total
      validator.becomeValidator amounts
      delegator.becomeDelegator amounts validator.nodeId
      validator.returnLeftover amounts
      delegator.returnLeftover amounts) now h
      fun _ _ left =>
        Settlement amounts validator delegator funder.address (h.x funder.address) left := by
  obtain ⟨hx_ne, hp_ne, hv_ne, hd_ne⟩ := hapart
  obtain ⟨hvknown, hquiet, hfee⟩ := hvalidator
  have hdknown := hdelegator.known
  obtain ⟨hvalidStake, -⟩ := StakeAmounts.validateLeftover_eq_ok_iff.1 hvalid
  rw [← hfee] at hfunds
  -- both hold the total after the payments, whichever was paid first
  refine Drives.bind
    (drives_fundBoth (.of_quiet hquiet) hfunder hx_ne hv_ne hd_ne hfunds hvx hdx) ?_
  rintro _ now _ ⟨rfl, rfl⟩
  refine Drives.bind (drives_becomeValidator ⟨hvknown, hquiet, hfee⟩ hvalidStake (by omega)
    ?_ (hp _) (hpending _) hvfits) ?_
  · simp only [Function.update_of_ne hx_ne, Function.update_self]
  rintro _ _ _ ⟨rfl, rfl⟩
  -- the validator's addresses are not the delegator's, who finds its own as they were
  refine Drives.bind (drives_becomeDelegator ⟨hdknown, hquiet, hfee⟩ hvalidStake (by omega)
    ?_ ?_ (hpending _) hdfits) ?_
  · simp [hx_ne.symm]
  · simp [hp_ne.symm, hp]
  rintro _ _ _ ⟨rfl, rfl⟩
  refine Drives.bind (drives_returnLeftover hvknown (.of_quiet hquiet) hfee hvalid hseed
    ?_ ?_ (hpending _)) ?_
  · simp [hx_ne]
  · simp [hp_ne]
  rintro _ _ _ ⟨rfl, rfl⟩
  refine Drives.mono (drives_returnLeftover hdknown (.of_quiet hquiet) hfee hvalid hseed
    ?_ ?_ (hpending _)) ?_
  · simp [hx_ne.symm]
  · simp [hp_ne.symm]
  rintro _ _ _ ⟨-, rfl⟩
  -- all stages are updates by now, and each field reads them back
  constructor
  case validatorX => simp [hx_ne]
  case delegatorX => simp
  case validatorP => simp [hp_ne]
  case delegatorP => simp
  case funder => simp [hv_ne.symm, hd_ne.symm, hfee]
  case validators => simp [hvalidators, Ledger.validatorOf, Participant.requestAt]
  case delegations => simp [hdelegations, Participant.requestAt]

/-! ## Entering and staking -/

/-- Entering a node that is running. -/
theorem drivesFrom_enroll {fleet : Fleet LocalClient} {id : String}
    {tracked : TrackedNode LocalClient} {roster : Roster LocalClient}
    (htracked : fleet.tracked id = .ok tracked) (hnew : user.name ∉ h.registry.users)
    (hx : h.registry.xAddresses user.name = []) (hp : h.registry.pAddresses user.name = []) :
    DrivesFrom epoch base (Roster.enroll fleet id user) roster now h
      fun node entered later left =>
        node = tracked.enrolled user roster.settings ∧ entered = roster.insert node ∧ later = now
          ∧ left = h.known (h.registry.entering user) := by
  refine DrivesFrom.ofExcept_bind (by rw [htracked]; rfl) (DrivesFrom.state_bind ?_)
  refine DrivesFrom.bind (DrivesFrom.lift (drives_enroll hnew hx hp)) ?_
  rintro _ _ _ _ ⟨rfl, rfl, rfl, rfl⟩
  exact DrivesFrom.change_bind (DrivesFrom.of_pure ⟨rfl, rfl, rfl, rfl⟩)

/-- Making a running node the funder. -/
theorem drivesFrom_appointFunder {fleet : Fleet LocalClient} {id key : String}
    {tracked : TrackedNode LocalClient} {roster : Roster LocalClient}
    (htracked : fleet.tracked id = .ok tracked) (hnew : user.name ∉ h.registry.users)
    (hkey : key = h.registry.fundedKey) :
    DrivesFrom epoch base (Roster.appointFunder fleet id user key) roster now h
      fun funder appointed later left =>
        funder = ⟨id, tracked.client, user, key, h.registry.fundedAddress, roster.settings⟩
          ∧ appointed = { roster with funder? := some funder } ∧ later = now
          ∧ left = h.known (h.registry.funding user) := by
  refine DrivesFrom.ofExcept_bind (by rw [htracked]; rfl) (DrivesFrom.state_bind ?_)
  refine DrivesFrom.bind (DrivesFrom.lift (drives_importFunds hnew hkey)) ?_
  rintro _ _ _ _ ⟨rfl, rfl, rfl, rfl⟩
  exact DrivesFrom.change_bind (DrivesFrom.of_pure ⟨rfl, rfl, rfl, rfl⟩)

end LocalNetwork

/-- Who is known in the beginning: the funded account, and no user. -/
def Registry.ofGenesis (genesis : Genesis) : Registry where
  fundedKey := genesis.funded.privateKey
  fundedAddress := genesis.funded.address
  users := []
  xAddresses := fun _ => []
  pAddresses := fun _ => []

/-- The holdings in the beginning: the funded account's, and no others. -/
def Holdings.ofGenesis (genesis : Genesis) (fee : Amount) : Holdings where
  fee := fee.toNat
  registry := .ofGenesis genesis
  outlook := .quiet
  x := Function.update (fun _ => 0) genesis.funded.address Ledger.fundedBalance.toNat
  p := fun _ => 0
  c := fun _ => 0
  pending := fun _ => 0
  validators := []
  delegations := []

/-- The funded account holds the first funds. -/
theorem Holdings.ofGenesis_x_funded (genesis : Genesis) (fee : Amount) :
    (ofGenesis genesis fee).x genesis.funded.address = Ledger.fundedBalance.toNat := by
  simp [ofGenesis]

/-- No other address holds anything. -/
theorem Holdings.ofGenesis_x_of_ne {genesis : Genesis} {address : String}
    (h : address ≠ genesis.funded.address) (fee : Amount) :
    (ofGenesis genesis fee).x address = 0 := by
  simp [ofGenesis, h]

theorem Ledger.holdings_ofGenesis (genesis : Genesis) (fee : Amount) :
    (Ledger.ofGenesis genesis fee).holdings = Holdings.ofGenesis genesis fee := by
  exact congrArg (fun x => { Holdings.ofGenesis genesis fee with x })
    (Book.getD_put UInt64.toNat Book.empty _ _ _)

/-! ## The users of a scenario -/

namespace Scenario

/-- Who is known once everybody is entered. -/
def registry (genesis : Genesis) : Registry :=
  (((Registry.ofGenesis genesis).entering validatorUser).entering delegatorUser).funding funderUser

theorem delegatorUser_ne : delegatorUser.name ≠ validatorUser.name := by decide

theorem funderUser_ne_validatorUser : funderUser.name ≠ validatorUser.name := by decide

theorem funderUser_ne_delegatorUser : funderUser.name ≠ delegatorUser.name := by decide

variable {genesis : Genesis} {tracked : TrackedNode LocalClient} {settings : StakingSettings}

/-- The first participant is known. -/
theorem validator_knownTo :
    (tracked.enrolled validatorUser settings).KnownTo (registry genesis) where
  user := by
    show validatorUser.name ∈ [validatorUser.name, delegatorUser.name, funderUser.name]
    simp
  xFirst := by
    simp [registry, Registry.entering, Registry.funding, TrackedNode.enrolled,
      delegatorUser_ne.symm, funderUser_ne_validatorUser.symm]
  pFirst := by
    simp [registry, Registry.entering, Registry.funding, TrackedNode.enrolled,
      delegatorUser_ne.symm]

/-- The second participant is known. -/
theorem delegator_knownTo :
    (tracked.enrolled delegatorUser settings).KnownTo (registry genesis) where
  user := by
    show delegatorUser.name ∈ [validatorUser.name, delegatorUser.name, funderUser.name]
    simp
  xFirst := by
    simp [registry, Registry.entering, Registry.funding, TrackedNode.enrolled,
      funderUser_ne_delegatorUser.symm]
  pFirst := by
    simp [registry, Registry.entering, Registry.funding, TrackedNode.enrolled]

/-- The funder's first address is the one with the first funds. -/
theorem head?_funder : ((registry genesis).xAddresses funderUser.name).head?
    = some genesis.funded.address := by
  simp [registry, Registry.entering, Registry.funding, Registry.ofGenesis]

end Scenario

namespace LocalNetwork

variable {epoch : Duration} {base : LocalNetwork} {now : Duration} {settings : StakingSettings}

/-- The addresses of a scenario are different ones. -/
theorem apart_enrolled (first second : TrackedNode LocalClient) (settings : StakingSettings)
    {genesis : Genesis} (hfunded : genesis.funded = Genesis.localNet.funded) :
    Apart (first.enrolled Scenario.validatorUser settings)
      (second.enrolled Scenario.delegatorUser settings) genesis.funded.address := by
  rw [hfunded]
  refine ⟨?_, ?_, ?_, ?_⟩
  · show Ledger.newAddress .x Scenario.validatorUser []
      ≠ Ledger.newAddress .x Scenario.delegatorUser []
    decide
  · show Ledger.newAddress .p Scenario.validatorUser []
      ≠ Ledger.newAddress .p Scenario.delegatorUser []
    decide
  · show Ledger.newAddress .x Scenario.validatorUser [] ≠ Genesis.localNet.funded.address
    decide
  · show Ledger.newAddress .x Scenario.delegatorUser [] ≠ Genesis.localNet.funded.address
    decide

/-- **The staking of a scenario**, from the first ledger. -/
theorem drivesFrom_stake {scenario : Scenario} {genesis : Genesis} {fleet : Fleet LocalClient}
    {first second : TrackedNode LocalClient}
    (hfirst : fleet.tracked Scenario.validatorId = .ok first)
    (hsecond : fleet.tracked Scenario.delegatorId = .ok second)
    (hfunded : genesis.funded = Genesis.localNet.funded)
    (hvalid : scenario.amounts.validate = .ok ())
    (hseed : scenario.amounts.stake.toNat + 2 * scenario.amounts.fee.toNat
      < scenario.amounts.seed.toNat)
    (hfunds : 2 * (scenario.amounts.total.toNat + scenario.amounts.fee.toNat)
      ≤ Ledger.fundedBalance.toNat)
    (hvfits : settings.schedule.Fits settings.schedule.validationPeriod epoch now)
    (hdfits : settings.schedule.Fits settings.schedule.delegationPeriod epoch
      (settings.schedule.begun now)) :
    DrivesFrom epoch base (scenario.stake genesis fleet) (Roster.empty settings) now
      (Holdings.ofGenesis genesis scenario.amounts.fee)
      fun _ roster _ left =>
        (∃ funder, roster = { ((Roster.empty settings).insert
            (first.enrolled Scenario.validatorUser settings)).insert
            (second.enrolled Scenario.delegatorUser settings) with funder? := some funder })
        ∧ Settlement scenario.amounts (first.enrolled Scenario.validatorUser settings)
          (second.enrolled Scenario.delegatorUser settings) genesis.funded.address
          Ledger.fundedBalance.toNat left := by
  have hnewDelegator : Scenario.delegatorUser.name ∉ [Scenario.validatorUser.name] := by decide
  have hnewFunder : Scenario.funderUser.name
      ∉ [Scenario.validatorUser.name, Scenario.delegatorUser.name] := by decide
  have hapart := apart_enrolled first second settings hfunded
  unfold Scenario.stake
  refine DrivesFrom.bind (drivesFrom_enroll hfirst List.not_mem_nil rfl rfl) ?_
  rintro _ _ _ _ ⟨rfl, rfl, rfl, rfl⟩
  -- a user who is not the first one is as new as that one was
  obtain ⟨hxNone, hpNone⟩ := Registry.entering_of_ne (.ofGenesis genesis)
    Scenario.delegatorUser_ne
  refine DrivesFrom.bind (drivesFrom_enroll hsecond hnewDelegator hxNone hpNone) ?_
  rintro _ _ _ _ ⟨rfl, rfl, rfl, rfl⟩
  refine DrivesFrom.bind (drivesFrom_appointFunder hfirst hnewFunder rfl) ?_
  rintro _ _ _ _ ⟨rfl, rfl, rfl, rfl⟩
  have hheld := Holdings.ofGenesis_x_funded genesis scenario.amounts.fee
  refine DrivesFrom.mono (DrivesFrom.lift (drives_staking hvalid hseed hapart
    ⟨Scenario.validator_knownTo, rfl, rfl⟩ ⟨Scenario.delegator_knownTo, rfl, rfl⟩
    Scenario.head?_funder (hheld.symm ▸ hfunds)
    (Holdings.ofGenesis_x_of_ne hapart.validator_ne scenario.amounts.fee)
    (Holdings.ofGenesis_x_of_ne hapart.delegator_ne scenario.amounts.fee) (fun _ => rfl)
    (fun _ => rfl) rfl rfl hvfits hdfits)) ?_
  rintro _ _ _ _ ⟨rfl, hsettled⟩
  exact ⟨⟨_, rfl⟩, hheld ▸ hsettled⟩

end LocalNetwork

end LedgerNet
