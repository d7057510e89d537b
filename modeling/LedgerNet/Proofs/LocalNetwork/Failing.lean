import LedgerNet.Proofs.LocalNetwork.Stages

/-!
# Stakes that fail on a network in memory

`Drives` says of a step that it succeeds; `Fails` says that it does not, and
with what. A run fails where its first step fails, so the rules put steps that
succeed before one that fails, and whatever is to come after it does not
matter.

Two things can go wrong with amounts that pass their check when nothing is in
store for the transactions. The times of a stake can be too long for the clock,
which stops the run with the seed already moved. And a rest that is all fees
leaves the platform lane and cannot be claimed on the other one, where nothing
would be left of it.
-/

namespace LedgerNet

/-- **A failure that is an overflow.** -/
def Failure.IsOverflow {ε : Type} (failure : Failure ε) : Prop :=
  ∃ cause, failure = .crash (.overflow cause)

namespace LocalNetwork

variable {ε δ α β : Type} (epoch : Duration) (base : LocalNetwork)

/-- **A program fails from a point in time and from holdings**, whichever
ledger comes to them, and leads to others, as described. -/
def Fails (p : Attempt (Timed (Clients LocalClient)) ε α) (now : Duration) (h : Holdings)
    (post : Failure ε → Duration → Holdings → Prop) : Prop :=
  ∀ ledger : Ledger, ledger.holdings = h → ∃ failure later left,
    p.runOn (Timeline.handler answer) (moment epoch base now ledger)
        = (.error failure, moment epoch base later left)
      ∧ post failure later left.holdings

variable {epoch base} {p : Attempt (Timed (Clients LocalClient)) ε α}
  {next : α → Attempt (Timed (Clients LocalClient)) ε β} {now : Duration} {h : Holdings}
  {post : Failure ε → Duration → Holdings → Prop}

/-- A step that fails after one that succeeds. -/
theorem Drives.fails {between : α → Duration → Holdings → Prop}
    (hp : Drives epoch base p now h between)
    (hnext : ∀ value later left, between value later left →
      Fails epoch base (next value) later left post) :
    Fails epoch base (p >>= next) now h post := by
  intro ledger hledger
  obtain ⟨value, later, left, hrun, hbetween⟩ := hp ledger hledger
  obtain ⟨failure, final, rest, hrest, hpost⟩ := hnext value later left.holdings hbetween left rfl
  exact ⟨failure, final, rest, (Attempt.runOn_bind_ok hrun).trans hrest, hpost⟩

namespace Fails

/-- What comes after a step that fails does not run. -/
theorem bind (hp : Fails epoch base p now h post) : Fails epoch base (p >>= next) now h post := by
  intro ledger hledger
  obtain ⟨failure, later, left, hrun, hpost⟩ := hp ledger hledger
  exact ⟨failure, later, left, Attempt.runOn_bind_error hrun, hpost⟩

theorem mono {weaker : Failure ε → Duration → Holdings → Prop}
    (hp : Fails epoch base p now h post)
    (hpost : ∀ failure later left, post failure later left → weaker failure later left) :
    Fails epoch base p now h weaker := by
  intro ledger hledger
  obtain ⟨failure, later, left, hrun, hfailure⟩ := hp ledger hledger
  exact ⟨failure, later, left, hrun, hpost failure later left.holdings hfailure⟩

/-- A computation that overflows, or else what comes after it fails. -/
theorem ofChecked_bind {checked : Checked α}
    (hoverflow : ∀ cause, checked = .error cause → post (.crash (.overflow cause)) now h)
    (hnext : ∀ value, checked = .ok value → Fails epoch base (next value) now h post) :
    Fails epoch base (Attempt.ofChecked checked >>= next) now h post := by
  cases checked with
  | ok value => exact hnext value rfl
  | error cause =>
    rintro ledger rfl
    exact ⟨_, now, ledger, rfl, hoverflow cause rfl⟩

/-- A check that is passed, and what comes after it fails. -/
theorem ofExcept_bind {result : Except ε α} {value : α} (hresult : result = .ok value)
    (hnext : Fails epoch base (next value) now h post) :
    Fails epoch base (Attempt.ofExcept result >>= next) now h post := by
  subst hresult
  exact hnext

theorem elapsed_bind {next : Duration → Attempt (Timed (Clients LocalClient)) ε β}
    (hnext : Fails epoch base (next now) now h post) :
    Fails epoch base (elapsed >>= next) now h post :=
  hnext

theorem timeOfDay_bind {next : Duration → Attempt (Timed (Clients LocalClient)) ε β}
    (hnext : Fails epoch base (next ⟨epoch.nanos + now.nanos⟩) now h post) :
    Fails epoch base (timeOfDay >>= next) now h post :=
  hnext

/-- **A call that the ledger refuses.** -/
theorem step {client : LocalClient} {call : Call} {action : LedgerAction call.Result}
    {post : Failure StakingError → Duration → Holdings → Prop}
    (hanswer : ∀ network, answer (client, call) network = onLedger action network)
    (haction : ∀ ledger : Ledger, ledger.holdings = h → ∃ cause left,
      action.run.run ledger = (.error (.error cause), left)
        ∧ post (.error (.api call.method cause)) now left.holdings) :
    Fails epoch base (stepCall client call) now h post := by
  intro ledger hledger
  obtain ⟨cause, left, hrun, hpost⟩ := haction ledger hledger
  refine ⟨_, now, left, ?_, hpost⟩
  rw [stepCall, Attempt.runOn_wrap, runOn_call client call hanswer hrun]
  rfl

end Fails

/-! ## Times that are too long -/

variable {node : Participant LocalClient} {amounts : StakeAmounts} {settings : PollSettings}

/-- A request whose times are too long. -/
theorem fails_stakeRequest {nodeId : String} {period : Duration}
    (hlong : ¬ (epoch.nanos + now.nanos + node.settings.schedule.startDelay.nanos + period.nanos
        < Duration.limit
      ∧ now.nanos + node.settings.schedule.startDelay.nanos < Duration.instantLimit)) :
    Fails epoch base (node.stakeRequest nodeId amounts.stake period) now h fun failure _ _ =>
      failure.IsOverflow := by
  refine .timeOfDay_bind (.ofChecked_bind (fun cause _ => ⟨cause, rfl⟩) fun start hstart => ?_)
  refine .ofChecked_bind (fun cause _ => ⟨cause, rfl⟩) fun finish hfinish => .elapsed_bind ?_
  refine .ofChecked_bind (fun cause _ => ⟨cause, rfl⟩) fun begins hbegins => ?_
  obtain ⟨-, rfl⟩ := Duration.plus_eq_ok_iff.1 hstart
  exact absurd ⟨(Duration.plus_eq_ok_iff.1 hfinish).1, (Duration.later_eq_ok_iff.1 hbegins).1⟩ hlong

/-- **A stake whose times do not fit fails** with its request, or else with what
comes after it: then it is the end of the wait that is too late. -/
theorem fails_seedAndRequest {nodeId : String} {period : Duration}
    {next : StakeRequest × Duration → Attempt (Timed (Clients LocalClient)) StakingError Unit}
    (hserved : node.Served amounts h) (hvalid : amounts.validateStake = .ok ())
    (hseed : 0 < amounts.seed.toNat) (hx : h.x node.xAddress = amounts.total.toNat)
    (hp : h.p node.pAddress = 0) (hpending : h.pending node.pAddress = 0)
    (hlong : ¬ node.settings.schedule.Fits period epoch now)
    (hnext : Duration.instantLimit ≤ now.nanos + node.settings.schedule.startDelay.nanos
        + node.settings.schedule.startGrace.nanos →
      Fails epoch base
        (next (node.requestAt amounts nodeId period ⟨epoch.nanos + now.nanos⟩,
          ⟨now.nanos + node.settings.schedule.startDelay.nanos⟩)) now (node.seeded amounts h)
        fun failure _ _ => failure.IsOverflow) :
    Fails epoch base (node.seed amounts settings >>= fun _ =>
      node.stakeRequest nodeId amounts.stake period >>= next) now h
      fun failure _ _ => failure.IsOverflow := by
  refine Drives.fails (drives_seed hserved hvalid hseed hx hp hpending) ?_
  rintro _ now _ ⟨rfl, rfl⟩
  by_cases hrequest : epoch.nanos + now.nanos + node.settings.schedule.startDelay.nanos
        + period.nanos < Duration.limit
      ∧ now.nanos + node.settings.schedule.startDelay.nanos < Duration.instantLimit
  · refine Drives.fails (drives_stakeRequest hrequest.1 hrequest.2) ?_
    rintro _ now _ ⟨rfl, rfl, rfl⟩
    exact hnext (Nat.le_of_not_lt fun hbegins => hlong ⟨hrequest.1, hbegins⟩)
  · exact .bind (fails_stakeRequest hrequest)

/-- A wait that would end too late. -/
theorem fails_awaitStake {tx : TxId}
    {next : Unit → Attempt (Timed (Clients LocalClient)) StakingError Unit}
    (hsettled : h.outlook.Settled)
    (hlate : Duration.instantLimit ≤ now.nanos + node.settings.schedule.startDelay.nanos
      + node.settings.schedule.startGrace.nanos) :
    Fails epoch base (node.awaitTx .p tx settings >>= fun _ =>
      node.awaitBegin ⟨now.nanos + node.settings.schedule.startDelay.nanos⟩ >>= next) now h
      fun failure _ _ => failure.IsOverflow := by
  refine Drives.fails (drives_awaitTx (by decide) hsettled) ?_
  rintro _ now _ ⟨rfl, rfl⟩
  refine .bind (.ofChecked_bind (fun cause _ => ⟨cause, rfl⟩) fun instant hinstant => ?_)
  exact absurd (Duration.later_eq_ok_iff.1 hinstant).1 (Nat.not_lt.2 hlate)

/-- **Becoming a validator for too long.** -/
theorem fails_becomeValidator (hserved : node.Served amounts h)
    (hvalid : amounts.validateStake = .ok ()) (hseed : 0 < amounts.seed.toNat)
    (hx : h.x node.xAddress = amounts.total.toNat) (hp : h.p node.pAddress = 0)
    (hpending : h.pending node.pAddress = 0)
    (hlong : ¬ node.settings.schedule.Fits node.settings.schedule.validationPeriod epoch now) :
    Fails epoch base (node.becomeValidator amounts) now h fun failure _ _ =>
      failure.IsOverflow := by
  have hquiet := hserved.quiet
  unfold Participant.becomeValidator
  refine fails_seedAndRequest hserved hvalid hseed hx hp hpending hlong fun hlate => ?_
  refine Drives.fails (drives_step (fun _ => rfl)
    (Ledger.turns_addValidator hquiet hserved.known.pFirst (stake_le_seeded hvalid))) ?_
  rintro tx now _ ⟨rfl, rfl⟩
  exact fails_awaitStake (.of_quiet hquiet) hlate

/-- **Becoming a delegator for too long.** -/
theorem fails_becomeDelegator {validator : String} (hserved : node.Served amounts h)
    (hvalid : amounts.validateStake = .ok ()) (hseed : 0 < amounts.seed.toNat)
    (hx : h.x node.xAddress = amounts.total.toNat) (hp : h.p node.pAddress = 0)
    (hpending : h.pending node.pAddress = 0)
    (hlong : ¬ node.settings.schedule.Fits node.settings.schedule.delegationPeriod epoch now) :
    Fails epoch base (node.becomeDelegator amounts validator) now h fun failure _ _ =>
      failure.IsOverflow := by
  have hsettled := Outlook.Settled.of_quiet hserved.quiet
  unfold Participant.becomeDelegator
  refine fails_seedAndRequest hserved hvalid hseed hx hp hpending hlong fun hlate => ?_
  refine Drives.fails (drives_step (fun _ => rfl)
    (Ledger.turns_addDelegator hsettled hserved.known.pFirst (stake_le_seeded hvalid))) ?_
  rintro tx now _ ⟨rfl, rfl⟩
  exact fails_awaitStake hsettled hlate

/-! ## A rest that is all fees -/

/-- **What is left is two fees and no more**: it leaves the platform lane, and
an import of nothing is refused. -/
theorem fails_returnLeftover (hknown : node.KnownTo h.registry) (hsettled : h.outlook.Settled)
    (hfee : h.fee = amounts.fee.toNat) (hvalid : amounts.validateLeftover = .ok ())
    (hseed : amounts.stake.toNat + 2 * amounts.fee.toNat = amounts.seed.toNat)
    (hp : h.p node.pAddress = amounts.seed.toNat - amounts.stake.toNat)
    (hpending : h.pending node.xAddress = 0) :
    Fails epoch base (node.returnLeftover amounts) now h fun failure later left =>
      failure = .error (.api "avm.importAVAX" (.rpc "avm.importAVAX" Ledger.refusalCode
          ("no funds to import for " ++ node.xAddress)))
        ∧ later = now ∧ left = { h with p := Function.update h.p node.pAddress 0 } := by
  obtain ⟨huser, -, hpFirst⟩ := hknown
  obtain ⟨hexport, hexportn⟩ := StakeAmounts.leftoverExport_of_valid hvalid
  have hstart := amounts.seed.toNat_lt
  unfold Participant.returnLeftover
  refine .ofExcept_bind (by rw [hvalid]; rfl) (.ofChecked_bind (fun cause hcause => ?_)
    fun exported hexported => ?_)
  · exact absurd (hexport.symm.trans hcause) (by simp)
  obtain rfl := Except.ok.inj (hexport.symm.trans hexported)
  generalize amounts.seed - amounts.stake - amounts.fee = exported at hexportn ⊢
  have hfunds : exported.toNat + h.fee ≤ h.p node.pAddress := by omega
  have hfits : h.pending node.xAddress + exported.toNat < 2 ^ 64 := by omega
  refine Drives.fails (drives_step (fun _ => rfl)
    (Ledger.turns_pExport hsettled hpFirst hfunds hfits)) ?_
  rintro _ now _ ⟨rfl, rfl⟩
  refine Drives.fails (drives_awaitTx (by decide) hsettled) ?_
  rintro _ now _ ⟨rfl, rfl⟩
  have hnothing : Function.update h.pending node.xAddress
      (h.pending node.xAddress + exported.toNat) node.xAddress ≤ h.fee := by
    rw [Function.update_self]
    omega
  have hleft : h.p node.pAddress - (exported.toNat + h.fee) = 0 := by omega
  refine .bind (.step (fun _ => rfl) fun ledger hledger => ?_)
  obtain ⟨left, hrun, hholdings⟩ := Ledger.run_xImport_refused hledger huser hnothing
  simp only [Holdings.update_pending hpending, hleft] at hholdings
  exact ⟨_, left, hrun, rfl, rfl, hholdings⟩

end LocalNetwork

end LedgerNet
