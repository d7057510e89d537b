import LedgerNet.Proofs.LocalNetwork.Funding

/-!
# Moving funds to the contract lane

An amount gets to the contract lane by an export and an import. The export
makes it pending under the contract form of the funded address, and the import
takes from there whatever is pending, less a fee. So each address gets the
amount less the fee if nothing else was pending, and nothing is pending when it
has got it.

The contract lane cannot tell whether a transaction is accepted. Each import is
followed by a pause instead, for a fifth of the time that a wait may take, and
the clock rounds up when it ends.

Half of a balance is too small to be moved if the fee of the import eats it up.
That is the case as long as the balance does not exceed three fees by two; the
export has then cost the half all the same, unless not even its fee could be
paid.
-/

namespace LedgerNet

/-! ## What moves come to -/

namespace Holdings

variable (h : Holdings) (source : String) (amount : Nat)

/-- **The holdings after an amount was moved to each of some contract
addresses**: a fee on top of it for each export, and a fee out of it for each
of the imports. -/
def movedTo (addresses : List String) : Holdings :=
  { h with
    x := Function.update h.x source (h.x source - addresses.length * (amount + h.fee))
    c := fun address => h.c address + addresses.count address * (amount - h.fee) }

variable {h source amount}

theorem movedTo_x_source {addresses : List String} :
    (h.movedTo source amount addresses).x source
      = h.x source - addresses.length * (amount + h.fee) :=
  Function.update_self _ _ _

/-- Nothing is moved to nobody. -/
theorem movedTo_nil : h.movedTo source amount [] = h := by
  unfold movedTo
  rw [List.length_nil, Nat.zero_mul, Nat.sub_zero, Function.update_eq_self]
  simp only [List.count_nil, Nat.zero_mul, Nat.add_zero]

/-- One move after others. -/
theorem movedTo_concat (done : List String) (address : String) :
    (h.movedTo source amount done).movedTo source amount [address]
      = h.movedTo source amount (done ++ [address]) := by
  unfold movedTo
  simp only [Function.update_self, Function.update_idem, Nat.sub_sub, ← Nat.add_mul,
    List.length_append, List.count_append, Nat.add_assoc]

/-- A single move. -/
theorem movedTo_singleton (address : String) :
    h.movedTo source amount [address] = { h with
      x := Function.update h.x source (h.x source - (amount + h.fee))
      c := Function.update h.c address (h.c address + (amount - h.fee)) } := by
  unfold movedTo
  rw [List.length_singleton, Nat.one_mul]
  refine congrArg (fun c => { h with
    x := Function.update h.x source (h.x source - (amount + h.fee)), c })
    (funext fun other => ?_)
  by_cases hother : other = address
  · subst hother
    rw [Function.update_self, List.count_singleton_self, Nat.one_mul]
  · rw [Function.update_of_ne hother, List.count_eq_zero.2 (by simpa using hother), Nat.zero_mul,
      Nat.add_zero]

/-- **The holdings while an amount is on its way**: it has been exported, and it
is all that is pending under the contract form of its source. -/
def underway (h : Holdings) (source : String) (amount : Nat) : Holdings :=
  { h with
    x := Function.update h.x source (h.x source - (amount + h.fee))
    pending := Function.update h.pending (Lane.c.address source) amount }

theorem underway_pending : (h.underway source amount).pending (Lane.c.address source) = amount :=
  Function.update_self _ _ _

end Holdings

namespace LocalNetwork

variable {epoch : Duration} {base : LocalNetwork} {now : Duration} {h : Holdings}
  {funder : Funder LocalClient} {amount : Amount} {address : String} {addresses : List String}

/-! ## Moving -/

/-- **A transaction on the contract lane is not waited for**: the lane cannot
tell, and a pause has to do. -/
theorem drives_awaitOrPause {client : LocalClient} {tx : TxId} {settings : PollSettings} :
    Drives epoch base (Acceptance.awaitOrPause (nodeStatus client .c) tx .c settings) now h
      fun _ later left =>
        later = Timeline.tick ⟨now.nanos + settings.timeout.fifth.nanos⟩ ∧ left = h := by
  intro ledger hledger
  -- the first question is the last one, whatever the budget is
  obtain ⟨left, hleft⟩ : ∃ left, Acceptance.maxPolls = left + 1 := ⟨2 ^ 32 - 2, rfl⟩
  have hawait : ((Acceptance.await (nodeStatus client .c) tx .c settings).outcome :
      Attempt (Timed (Clients LocalClient)) AcceptanceError _).runOn (Timeline.handler answer)
        (moment epoch base now ledger)
      = (.ok (.error (.error (.unsupported .c))), moment epoch base now ledger) := by
    unfold Acceptance.await
    rw [hleft]
    rfl
  unfold Acceptance.awaitOrPause
  rw [Attempt.runOn_bind_ok hawait]
  exact Drives.sleep settings.timeout.fifth ledger hledger

/-- An export to the contract lane, and the wait for it. -/
theorem drives_exportToC (hknown : funder.KnownTo h.registry) (hsettled : h.outlook.Settled)
    (hpending : h.pending (Lane.c.address funder.address) = 0)
    (hfunds : amount.toNat + h.fee ≤ h.x funder.address) :
    Drives epoch base (funder.call (.xExport funder.user amount (Lane.c.address funder.address))
        >>= funder.awaitX) now h fun _ later left =>
      later = now ∧ left = h.underway funder.address amount.toNat := by
  have hfits : h.pending (Lane.c.address funder.address) + amount.toNat < 2 ^ 64 := by
    rw [hpending, Nat.zero_add]
    exact amount.toNat_lt
  refine Drives.bind (drives_step (fun _ => rfl)
    (Ledger.turns_xExport hsettled hknown.xFirst hfunds hfits)) ?_
  rintro _ _ left ⟨rfl, hleft⟩
  rw [hpending, Nat.zero_add] at hleft
  refine (drives_awaitX (by rw [hleft]; exact hsettled)).mono ?_
  rintro _ _ _ ⟨rfl, rfl⟩
  exact ⟨rfl, hleft⟩

/-- Moving an amount is exporting and importing it. -/
theorem fundC_eq : funder.fundC amount address
    = (funder.call (.xExport funder.user amount (Lane.c.address funder.address))
        >>= funder.awaitX) >>= fun _ =>
      funder.call (.cImport funder.user address Lane.x.letter) >>= fun imported =>
      (Acceptance.awaitOrPause (nodeStatus funder.client .c) imported .c
        funder.settings.acceptance).wrap .acceptance :=
  (bind_assoc _ _ _).symm

/-- **An amount that is worth more than the fee** gets to a contract address. -/
theorem drives_fundC (hknown : funder.KnownTo h.registry) (hsettled : h.outlook.Settled)
    (hpending : h.pending (Lane.c.address funder.address) = 0) (hworth : h.fee < amount.toNat)
    (hfunds : amount.toNat + h.fee ≤ h.x funder.address) :
    Drives epoch base (funder.fundC amount address) now h fun _ later left =>
      later = Timeline.tick ⟨now.nanos + funder.settings.acceptance.timeout.fifth.nanos⟩
        ∧ left = h.movedTo funder.address amount.toNat [address] := by
  rw [fundC_eq]
  refine Drives.bind (drives_exportToC hknown hsettled hpending hfunds) ?_
  rintro _ _ _ ⟨rfl, rfl⟩
  refine Drives.bind (drives_step (fun _ => rfl) (Ledger.turns_cImport
    (h := h.underway funder.address amount.toNat) hknown.xFirst
    (Holdings.underway_pending.symm ▸ hworth))) ?_
  rintro _ _ _ ⟨rfl, rfl⟩
  refine (Drives.wrap drives_awaitOrPause).mono ?_
  rintro _ _ _ ⟨rfl, rfl⟩
  refine ⟨rfl, ?_⟩
  rw [Holdings.movedTo_singleton, Holdings.underway_pending]
  unfold Holdings.underway
  simp only [Holdings.update_pending hpending]

/-- **Moving an amount to some addresses**, one after the other. -/
theorem drives_fundCAddresses (hknown : funder.KnownTo h.registry) (hsettled : h.outlook.Settled)
    (hpending : h.pending (Lane.c.address funder.address) = 0) (hworth : h.fee < amount.toNat)
    (hfunds : addresses.length * (amount.toNat + h.fee) ≤ h.x funder.address) :
    Drives epoch base (funder.fundCAddresses addresses amount) now h fun _ later left =>
      later = Timeline.afterPauses funder.settings.acceptance.timeout.fifth now addresses.length
        ∧ left = h.movedTo funder.address amount.toNat addresses := by
  refine Drives.bind (drives_step (fun _ => rfl)
    (Ledger.turns_cImportKey hknown.user_mem hknown.key_eq)) ?_
  rintro _ now h ⟨rfl, rfl⟩
  refine Drives.forM (fun done later left =>
    later = Timeline.afterPauses funder.settings.acceptance.timeout.fifth now done.length
      ∧ left = h.movedTo funder.address amount.toNat done) addresses ?_
    ⟨rfl, Holdings.movedTo_nil.symm⟩
  rintro done address rest rfl _ _ ⟨rfl, rfl⟩
  have hpay : amount.toNat + h.fee
      ≤ (h.movedTo funder.address amount.toNat done).x funder.address := by
    rw [Holdings.movedTo_x_source]
    rw [List.length_append, List.length_cons, Nat.add_mul, Nat.add_mul, Nat.one_mul] at hfunds
    omega
  refine (drives_fundC (h := h.movedTo funder.address amount.toNat done) hknown hsettled hpending
    hworth hpay).mono ?_
  rintro _ _ _ ⟨rfl, rfl⟩
  refine ⟨?_, Holdings.movedTo_concat done address⟩
  rw [List.length_append]
  rfl

/-! ## Amounts that are too small, and too large -/

/-- **More than the funder has** is not exported, and nothing has changed. -/
theorem fails_fundC_poor (hknown : funder.KnownTo h.registry)
    (hfunds : h.x funder.address < amount.toNat + h.fee) (hfits : amount.toNat + h.fee < 2 ^ 64) :
    Fails epoch base (funder.fundC amount address) now h fun failure later left =>
      failure = .error (.api "avm.exportAVAX" (.rpc "avm.exportAVAX" Ledger.refusalCode
        ("insufficient funds on " ++ funder.address))) ∧ later = now ∧ left = h := by
  refine .bind (.step (fun _ => rfl) fun ledger hledger => ?_)
  refine ⟨_, ledger, ?_, rfl, rfl, hledger⟩
  exact Ledger.run_xExport_refused hledger hknown.xFirst hfunds hfits

/-- **What the fee eats up** is exported and not imported: it has left the
funded account, and it is not pending any more. -/
theorem fails_fundC_worthless (hknown : funder.KnownTo h.registry) (hsettled : h.outlook.Settled)
    (hpending : h.pending (Lane.c.address funder.address) = 0) (hworth : amount.toNat ≤ h.fee)
    (hfunds : amount.toNat + h.fee ≤ h.x funder.address) :
    Fails epoch base (funder.fundC amount address) now h fun failure later left =>
      failure = .error (.api "avax.import" (.rpc "avax.import" Ledger.refusalCode
          ("no funds to import for " ++ Lane.c.address funder.address)))
        ∧ later = now
        ∧ left = { h with
          x := Function.update h.x funder.address
            (h.x funder.address - (amount.toNat + h.fee)) } := by
  rw [fundC_eq]
  refine Drives.fails (drives_exportToC hknown hsettled hpending hfunds) ?_
  rintro _ _ _ ⟨rfl, rfl⟩
  refine .bind (.step (fun _ => rfl) fun ledger hledger => ?_)
  obtain ⟨after, hrun, hafter⟩ := Ledger.run_cImport_refused address hledger hknown.xFirst
    (Holdings.underway_pending.symm ▸ hworth)
  refine ⟨_, after, hrun, rfl, rfl, hafter.trans ?_⟩
  unfold Holdings.underway
  simp only [Holdings.update_pending hpending]

/-- A single address that nothing gets to. -/
theorem fails_fundCAddresses_singleton {post : Failure StakingError → Duration → Holdings → Prop}
    (hknown : funder.KnownTo h.registry)
    (hfails : Fails epoch base (funder.fundC amount address) now h post) :
    Fails epoch base (funder.fundCAddresses [address] amount) now h post := by
  refine Drives.fails (drives_step (fun _ => rfl)
    (Ledger.turns_cImportKey hknown.user_mem hknown.key_eq)) ?_
  rintro _ _ _ ⟨rfl, rfl⟩
  exact .bind hfails

/-! ## Half of a balance -/

/-- **Half of what can be spent**, when a fee is set aside. -/
def half (balance fee : Nat) : Nat := (balance - fee) / 2

/-- The half is worth something if and only if it exceeds the fee. -/
theorem lt_half_iff {balance fee : Nat} : fee < half balance fee ↔ 3 * fee + 2 ≤ balance := by
  unfold half
  omega

/-- The half and a fee can be paid if a fee can. -/
theorem half_add_fee_le {balance fee : Nat} (h : fee ≤ balance) :
    half balance fee + fee ≤ balance := by
  unfold half
  omega

/-- The half as an amount. -/
theorem toNat_half (balance fee : Amount) :
    (balance.minusOrZero fee / 2).toNat = half balance.toNat fee.toNat := by
  rw [UInt64.toNat_div, Amount.toNat_minusOrZero]
  rfl

/-! ## From a ledger -/

/-- **What moving an amount to some contract addresses leaves**: each of them
has got the amount less a fee as often as it is given, the funder has paid the
amounts and a fee for each, nothing of it is pending, and nothing else is
different. -/
structure Moved (funder : Funder LocalClient) (addresses : List String) (amount : Nat)
    (ledger left : Ledger) : Prop where
  each : ∀ address, left.cBalance address
    = ledger.cBalance address + addresses.count address * (amount - ledger.fee.toNat)
  payer : (left.xBalance funder.address).toNat
    = (ledger.xBalance funder.address).toNat - addresses.length * (amount + ledger.fee.toNat)
  others : ∀ address ≠ funder.address, left.xBalance address = ledger.xBalance address
  pending : left.pending.getD (Lane.c.address funder.address) 0 = 0
  rest : { left.holdings with x := ledger.holdings.x, c := ledger.holdings.c } = ledger.holdings

section FromLedger

variable {ledger left : Ledger}

/-- Holdings after moves with nothing else pending. -/
theorem Moved.of_movedTo {amount : Nat}
    (hpending : ledger.pending.getD (Lane.c.address funder.address) 0 = 0)
    (hleft : left.holdings = ledger.holdings.movedTo funder.address amount addresses) :
    Moved funder addresses amount ledger left where
  each address := congrFun (congrArg Holdings.c hleft) address
  payer := (congrFun (congrArg Holdings.x hleft) _).trans Holdings.movedTo_x_source
  others address hne :=
    UInt64.toNat_inj.1 ((congrFun (congrArg Holdings.x hleft) address).trans
      (Function.update_of_ne hne _ _))
  pending := UInt64.toNat_inj.1 ((congrFun (congrArg Holdings.pending hleft) _).trans
    (congrArg UInt64.toNat hpending))
  rest := by
    rw [hleft]
    rfl

/-- **Moving an amount to some addresses** from a ledger. -/
theorem runOn_fundCAddresses (hknown : funder.KnownTo ledger.registry)
    (hsettled : ledger.outlook.Settled)
    (hpending : ledger.pending.getD (Lane.c.address funder.address) 0 = 0)
    (hworth : ledger.fee.toNat < amount.toNat)
    (hfunds : addresses.length * (amount.toNat + ledger.fee.toNat)
      ≤ (ledger.xBalance funder.address).toNat) :
    ∃ left, (funder.fundCAddresses addresses amount).runOn (Timeline.handler answer)
        (moment epoch base now ledger)
      = (.ok (), moment epoch base (Timeline.afterPauses
          funder.settings.acceptance.timeout.fifth now addresses.length) left)
      ∧ Moved funder addresses amount.toNat ledger left := by
  have hnothing : ledger.holdings.pending (Lane.c.address funder.address) = 0 :=
    congrArg UInt64.toNat hpending
  have hdrives : Drives epoch base _ now ledger.holdings _ :=
    drives_fundCAddresses hknown hsettled hnothing hworth hfunds
  obtain ⟨_, _, left, hrun, rfl, hleft⟩ := hdrives ledger rfl
  exact ⟨left, hrun, .of_movedTo hpending hleft⟩

/-- **A balance of which the half is worth something.** -/
theorem runOn_moveHalfToC_ok (hknown : funder.KnownTo ledger.registry)
    (hsettled : ledger.outlook.Settled)
    (hpending : ledger.pending.getD (Lane.c.address funder.address) 0 = 0)
    (hworth : ledger.fee.toNat < half (ledger.xBalance funder.address).toNat ledger.fee.toNat) :
    ∃ left, (funder.moveHalfToC address ledger.fee).runOn (Timeline.handler answer)
        (moment epoch base now ledger)
      = (.ok (), moment epoch base (Timeline.afterPauses
          funder.settings.acceptance.timeout.fifth now 1) left)
      ∧ Moved funder [address] (half (ledger.xBalance funder.address).toNat ledger.fee.toNat)
          ledger left := by
  have hfee : ledger.fee.toNat ≤ (ledger.xBalance funder.address).toNat := by
    have hrich := lt_half_iff.1 hworth
    omega
  have hfunds := half_add_fee_le hfee
  rw [← toNat_half] at hworth hfunds ⊢
  exact runOn_fundCAddresses hknown hsettled hpending hworth
    (by rwa [List.length_singleton, Nat.one_mul])

/-- **A balance of which the half is worth nothing** stays where it is, or
comes to nothing on its way; either way a call is refused and nothing
overflows. -/
theorem runOn_moveHalfToC_error (hknown : funder.KnownTo ledger.registry)
    (hsettled : ledger.outlook.Settled)
    (hpending : ledger.pending.getD (Lane.c.address funder.address) 0 = 0)
    (hworth : half (ledger.xBalance funder.address).toNat ledger.fee.toNat ≤ ledger.fee.toNat) :
    ∃ method cause after, (funder.moveHalfToC address ledger.fee).runOn (Timeline.handler answer)
        (moment epoch base now ledger)
      = (.error (.error (.api method cause)), after) := by
  have hhalf := toNat_half (ledger.xBalance funder.address) ledger.fee
  have hfails : Fails epoch base (funder.fundC
      ((ledger.xBalance funder.address).minusOrZero ledger.fee / 2) address) now ledger.holdings
      fun failure _ _ => ∃ method cause, failure = .error (.api method cause) := by
    by_cases hfee : ledger.fee.toNat ≤ (ledger.xBalance funder.address).toNat
    case pos =>
      -- the export goes through, and there is nothing to import
      refine (fails_fundC_worthless hknown hsettled (congrArg UInt64.toNat hpending)
        (hhalf.trans_le hworth) (hhalf ▸ half_add_fee_le hfee)).mono ?_
      rintro _ _ _ ⟨rfl, -⟩
      exact ⟨_, _, rfl⟩
    case neg =>
      -- nothing is exported, and the funder cannot pay for it
      have hzero : half (ledger.xBalance funder.address).toNat ledger.fee.toNat = 0 := by
        unfold half
        omega
      have hpoor : ledger.holdings.x funder.address < ledger.holdings.fee := Nat.not_le.1 hfee
      have hfits : ledger.holdings.fee < 2 ^ 64 := ledger.fee.toNat_lt
      rw [hzero] at hhalf
      refine (fails_fundC_poor hknown (by omega) (by omega)).mono ?_
      rintro _ _ _ ⟨rfl, -⟩
      exact ⟨_, _, rfl⟩
  obtain ⟨_, later, left, hrun, method, cause, rfl⟩ :=
    fails_fundCAddresses_singleton hknown hfails ledger rfl
  exact ⟨method, cause, _, hrun⟩

/-- **Funds get to the contract lane.** From a ledger on which nothing is pending
under the contract form of the funded address, and for a funder that can pay for
all moves of an amount that is worth more than the fee, moving it to some
addresses succeeds. It takes a pause for each, of a fifth of the time that a wait
may take. Pauses are never too short, and they are exact where the fifth and the
beginning are whole milliseconds; the clock rounds up otherwise.

Moving half of a balance succeeds if and only if the balance is at least three
fees and two. Otherwise a call is refused; an overflow is never the cause. -/
theorem contract_funding (base : LocalNetwork) (epoch now : Duration)
    (hknown : funder.KnownTo ledger.registry) (hsettled : ledger.outlook.Settled)
    (hpending : ledger.pending.getD (Lane.c.address funder.address) 0 = 0) :
    let start := moment epoch base now ledger
    let balance := (ledger.xBalance funder.address).toNat
    let fee := ledger.fee.toNat
    let fifth := funder.settings.acceptance.timeout.fifth
    (∀ (addresses : List String) (amount : Amount), fee < amount.toNat →
        addresses.length * (amount.toNat + fee) ≤ balance →
        ∃ later left, (funder.fundCAddresses addresses amount).runOn (Timeline.handler answer) start
            = (.ok (), moment epoch base later left)
          ∧ later = Timeline.afterPauses fifth now addresses.length
          ∧ now.nanos + addresses.length * fifth.nanos ≤ later.nanos
          ∧ (now.Whole →
            later.nanos = now.nanos + addresses.length * (Timeline.tick fifth).nanos
              ∧ (fifth.Whole → later.nanos = now.nanos + addresses.length * fifth.nanos))
          ∧ Moved funder addresses amount.toNat ledger left)
      ∧ ∀ address,
        let ended := (funder.moveHalfToC address ledger.fee).runOn (Timeline.handler answer) start
        (ended.1 = .ok () ↔ 3 * fee + 2 ≤ balance)
          ∧ (∀ cause, ended.1 ≠ .error (.crash cause))
          ∧ (3 * fee + 2 ≤ balance → ∃ left,
            ended.2 = moment epoch base (Timeline.afterPauses fifth now 1) left
              ∧ left.cBalance address = ledger.cBalance address + ((balance - fee) / 2 - fee)
              ∧ (left.xBalance funder.address).toNat = balance - (balance - fee) / 2 - fee
              ∧ Moved funder [address] ((balance - fee) / 2) ledger left) := by
  intro start balance fee fifth
  refine ⟨fun addresses amount hworth hfunds => ?_, fun address => ?_⟩
  · obtain ⟨left, hrun, hmoved⟩ := runOn_fundCAddresses hknown hsettled hpending hworth hfunds
    refine ⟨_, left, hrun, rfl, Timeline.le_afterPauses fifth now _,
      fun hnow => ⟨?_, fun hfifth => ?_⟩, hmoved⟩
    · rw [Timeline.afterPauses_of_whole hnow]
    · rw [Timeline.afterPauses_exact hnow hfifth]
  · intro ended
    by_cases hworth : fee < half balance fee
    case pos =>
      have hmoves : ∃ left, ended = _ ∧ _ := runOn_moveHalfToC_ok hknown hsettled hpending hworth
      obtain ⟨left, hrun, hmoved⟩ := hmoves
      rw [hrun]
      refine ⟨iff_of_true rfl (lt_half_iff.1 hworth), nofun, fun _ => ⟨left, rfl, ?_, ?_, hmoved⟩⟩
      · have heach := hmoved.each address
        rw [List.count_singleton_self, Nat.one_mul] at heach
        exact heach
      · have hpayer := hmoved.payer
        rw [List.length_singleton, Nat.one_mul, ← Nat.sub_sub] at hpayer
        exact hpayer
    case neg =>
      have hrefused : ∃ method cause after, ended = (.error (.error (.api method cause)), after) :=
        runOn_moveHalfToC_error hknown hsettled hpending (Nat.not_lt.1 hworth)
      obtain ⟨method, cause, after, hrun⟩ := hrefused
      have hpoor := lt_half_iff.not.1 hworth
      rw [hrun]
      exact ⟨iff_of_false nofun hpoor, nofun, fun hrich => absurd hrich hpoor⟩

/-- The treasurer moves an amount to three addresses, two of them the same, or
half of what it holds to one of them. -/
theorem contract_funding_treasurer :
    let start := moment .zero (LocalNetwork.ofGenesis Genesis.localNet 10) .zero treasury
    (∃ left, (treasurer.fundCAddresses ["0xa", "0xb", "0xa"] 15).runOn (Timeline.handler answer)
          start = (.ok (), moment .zero (LocalNetwork.ofGenesis Genesis.localNet 10)
            (Timeline.afterPauses treasurer.settings.acceptance.timeout.fifth .zero 3) left)
        ∧ left.cBalance "0xa" = 10)
      ∧ ((treasurer.moveHalfToC "0xa" 10).runOn (Timeline.handler answer) start).1 = .ok () := by
  intro start
  have hworth : treasury.fee.toNat < (15 : Amount).toNat := by decide
  have hfunds : 3 * ((15 : Amount).toNat + treasury.fee.toNat)
      ≤ (treasury.xBalance treasurer.address).toNat := by decide
  have hrich : 3 * treasury.fee.toNat + 2 ≤ (treasury.xBalance treasurer.address).toNat := by decide
  have hfunding := contract_funding (LocalNetwork.ofGenesis Genesis.localNet 10) .zero .zero
    treasurer_knownTo (.of_quiet rfl) rfl
  obtain ⟨_, left, hrun, rfl, -, -, hmoved⟩ := hfunding.1 ["0xa", "0xb", "0xa"] 15 hworth hfunds
  exact ⟨⟨left, hrun, hmoved.each "0xa"⟩, (hfunding.2 "0xa").1.2 hrich⟩

/-- The treasurer with waits of 7 ms. -/
def hastyTreasurer : Funder LocalClient :=
  { treasurer with
    settings := { stakingSettings with acceptance := ⟨.ofMillis 1, .ofMillis 7⟩ } }

/-- **Five pauses can take longer than five fifths**: a fifth of 7 ms is not a
whole number of milliseconds. -/
theorem fundCAddresses_outlasts :
    let start := moment .zero (LocalNetwork.ofGenesis Genesis.localNet 10) .zero treasury
    let addresses := ["0xa", "0xb", "0xa", "0xc", "0xd"]
    let fifth := hastyTreasurer.settings.acceptance.timeout.fifth
    hastyTreasurer.KnownTo treasury.registry
      ∧ treasury.outlook.Settled
      ∧ treasury.pending.getD (Lane.c.address hastyTreasurer.address) 0 = 0
      ∧ treasury.fee < 11
      ∧ addresses.length * ((11 : Amount).toNat + treasury.fee.toNat)
        ≤ (treasury.xBalance hastyTreasurer.address).toNat
      ∧ ((hastyTreasurer.fundCAddresses addresses 11).runOn (Timeline.handler answer) start).1
        = .ok ()
      ∧ ((hastyTreasurer.fundCAddresses addresses 11).runOn (Timeline.handler answer) start).2.now
        = .ofMillis 10
      ∧ addresses.length * fifth.nanos = (Duration.ofMillis 7).nanos := by
  intro start addresses fifth
  have hworth : treasury.fee.toNat < (11 : Amount).toNat := by decide
  have hfunds : 5 * ((11 : Amount).toNat + treasury.fee.toNat)
      ≤ (treasury.xBalance hastyTreasurer.address).toNat := by decide
  have hknown : hastyTreasurer.KnownTo treasury.registry :=
    ⟨treasurer_knownTo.user_mem, treasurer_knownTo.xFirst, treasurer_knownTo.key_eq⟩
  have hends : Timeline.afterPauses fifth .zero 5 = .ofMillis 10 := by decide
  have hfifths : 5 * fifth.nanos = (Duration.ofMillis 7).nanos := by decide
  have hmoves : ∃ left, (hastyTreasurer.fundCAddresses addresses 11).runOn
      (Timeline.handler answer) start = _ ∧ _ :=
    runOn_fundCAddresses hknown (.of_quiet rfl) rfl hworth hfunds
  obtain ⟨left, hrun, -⟩ := hmoves
  rw [hrun]
  exact ⟨hknown, .of_quiet rfl, rfl, by decide, hfunds, rfl, hends, hfifths⟩

end FromLedger

end LocalNetwork

end LedgerNet
