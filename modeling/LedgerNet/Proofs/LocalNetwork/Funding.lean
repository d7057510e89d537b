import LedgerNet.Proofs.Balance.Batch
import LedgerNet.Proofs.Ledger.Funding
import LedgerNet.Proofs.LocalNetwork.Failing
import LedgerNet.Proofs.LocalNetwork.Staking

/-!
# Two ways to fund addresses

A funder can pay addresses one after the other and compare the balance of each
after its payment, or pay them all, in several outputs each, and compare all
balances together in the end. On addresses that hold nothing both ways come to
the same thing: they leave what the addresses are owed (`Holdings.paidTo`), and
they notice an address that is given twice. The first way stops at the second
payment of such an address, the other one has made all payments by then.

Paying in one transaction and paying in several outputs of one transaction
lead to the same holdings. What is compared differs: the first way asks after
each payment whether the address has what it was just paid, so that the
addresses that are done must not contain the next one. That is the invariant
of the walk along the list.
-/

namespace LedgerNet

/-! ## What payments come to -/

namespace Holdings

variable (h : Holdings) (source : String) (sum : Nat)

/-- **The holdings after a sum went to each of some addresses**, with a fee
for each payment. -/
def paidTo (addresses : List String) : Holdings :=
  { h with x := fun address =>
      if address = source then h.x source - addresses.length * (sum + h.fee)
      else h.x address + addresses.count address * sum }

variable {h source sum} {addresses : List String} {address : String}

theorem paidTo_x_source :
    (h.paidTo source sum addresses).x source
      = h.x source - addresses.length * (sum + h.fee) :=
  if_pos rfl

theorem paidTo_x_of_ne (hne : address ≠ source) :
    (h.paidTo source sum addresses).x address = h.x address + addresses.count address * sum :=
  if_neg hne

/-- Nothing is paid to nobody. -/
theorem paidTo_nil : h.paidTo source sum [] = h := by
  refine congrArg (fun x => { h with x }) (funext fun address => ?_)
  by_cases hsource : address = source
  · rw [if_pos hsource, hsource, List.length_nil, Nat.zero_mul, Nat.sub_zero]
  · rw [if_neg hsource, List.count_nil, Nat.zero_mul, Nat.add_zero]

/-- One payment after others. -/
theorem paidTo_concat (done : List String) (address : String) :
    (h.paidTo source sum done).paidTo source sum [address]
      = h.paidTo source sum (done ++ [address]) := by
  refine congrArg (fun x => { h with x }) (funext fun other => ?_)
  by_cases hsource : other = source
  · rw [if_pos hsource, if_pos hsource, paidTo_x_source, List.length_append, Nat.add_mul,
      Nat.sub_sub]
    rfl
  · rw [if_neg hsource, if_neg hsource, paidTo_x_of_ne hsource, List.count_append, Nat.add_mul,
      Nat.add_assoc]

/-- A single payment, as two changes of the balances. -/
theorem paidTo_singleton (hne : address ≠ source) :
    h.paidTo source sum [address] = { h with
      x := Function.update (Function.update h.x source (h.x source - (sum + h.fee)))
        address (h.x address + sum) } := by
  refine congrArg (fun x => { h with x }) (funext fun other => ?_)
  by_cases hsource : other = source
  · subst hsource
    rw [if_pos rfl, Function.update_of_ne hne.symm, Function.update_self, List.length_singleton,
      Nat.one_mul]
  · rw [if_neg hsource]
    by_cases hother : other = address
    · subst hother
      rw [Function.update_self, List.count_singleton_self, Nat.one_mul]
    · rw [Function.update_of_ne hother, Function.update_of_ne hsource,
        List.count_eq_zero.2 (by simpa using hother), Nat.zero_mul, Nat.add_zero]

end Holdings

/-- **The funder is known to a ledger**: its user has the funded address as
the first one on the exchange lane, and its key is the funded one. -/
structure Funder.KnownTo {κ : Type} (funder : Funder κ) (registry : Registry) : Prop where
  user_mem : funder.user.name ∈ registry.users
  xFirst : (registry.xAddresses funder.user.name).head? = some funder.address
  key_eq : funder.privateKey = registry.fundedKey

namespace LocalNetwork

variable {epoch : Duration} {base : LocalNetwork} {now : Duration} {h : Holdings}
  {funder : Funder LocalClient} {amount : Amount} {times : Nat} {address : String}
  {addresses : List String}

/-! ## One after the other -/

/-- Paying the one and then the other addresses. -/
theorem fundXAddresses_append (before after : List String) :
    funder.fundXAddresses (before ++ after) amount
      = funder.fundXAddresses before amount >>= fun _ => funder.fundXAddresses after amount :=
  List.forM_append

/-- A list without repetitions of addresses that hold nothing. -/
theorem drives_fundXAddresses (hknown : funder.KnownTo h.registry) (hsettled : h.outlook.Settled)
    (hne : funder.address ∉ addresses) (hempty : ∀ address ∈ addresses, h.x address = 0)
    (hfunds : addresses.length * (amount.toNat + h.fee) ≤ h.x funder.address)
    (hnodup : addresses.Nodup) :
    Drives epoch base (funder.fundXAddresses addresses amount) now h fun _ later left =>
      later = now ∧ left = h.paidTo funder.address amount.toNat addresses := by
  refine Drives.forM (fun done later left =>
    later = now ∧ left = h.paidTo funder.address amount.toNat done) addresses ?_
    ⟨rfl, Holdings.paidTo_nil.symm⟩
  rintro done address rest rfl _ _ ⟨rfl, rfl⟩
  -- the address is none of those that are done
  have hfresh : address ∉ done := fun hmem =>
    (List.nodup_append.1 hnodup).2.2 address hmem address List.mem_cons_self rfl
  have hother : address ≠ funder.address := fun heq => hne (by simp [← heq])
  have hnothing : (h.paidTo funder.address amount.toNat done).x address = 0 := by
    rw [Holdings.paidTo_x_of_ne hother, hempty address (by simp), List.count_eq_zero.2 hfresh,
      Nat.zero_mul]
  have hpay : amount.toNat + h.fee
      ≤ (h.paidTo funder.address amount.toNat done).x funder.address := by
    rw [Holdings.paidTo_x_source]
    rw [List.length_append, List.length_cons, Nat.add_mul, Nat.add_mul, Nat.one_mul] at hfunds
    omega
  refine (drives_fundX (h := h.paidTo funder.address amount.toNat done) hsettled hknown.xFirst
    hother hpay hnothing).mono ?_
  rintro _ later left ⟨rfl, hleft⟩
  refine ⟨rfl, hleft.trans ?_⟩
  rw [← Holdings.paidTo_concat, Holdings.paidTo_singleton hother, hnothing, Nat.zero_add]

/-- **Paying an address that holds something** goes through, and then the
balance is too large. -/
theorem fails_fundX (hknown : funder.KnownTo h.registry) (hsettled : h.outlook.Settled)
    (hne : address ≠ funder.address) (hfunds : amount.toNat + h.fee ≤ h.x funder.address)
    (hfits : h.x address + amount.toNat < 2 ^ 64) (hheld : h.x address ≠ 0) :
    Fails epoch base (funder.fundX amount address) now h fun failure _ _ =>
      failure = .error (.balance (.mismatch .x address amount.toNat
        (h.x address + amount.toNat))) := by
  refine Drives.fails (drives_step (fun _ => rfl)
    (Ledger.turns_xSend hsettled hknown.xFirst hne hfunds hfits)) ?_
  rintro tx now left ⟨rfl, rfl⟩
  refine Drives.fails (drives_awaitX hsettled) ?_
  rintro _ now left ⟨rfl, rfl⟩
  intro ledger hledger
  have hactual : ledger.holdings.on .x address = h.x address + amount.toNat := by
    rw [hledger]
    exact Function.update_self _ _ _
  refine ⟨_, now, ledger, ?_, rfl⟩
  rw [Attempt.runOn_wrap]
  unfold Funder.balances
  rw [runOn_check, hactual, if_neg (by omega)]
  rfl

/-- A list with repetitions has a first one. -/
theorem exists_repeated {l : List String} (h : ¬ l.Nodup) :
    ∃ done a rest, l = done ++ a :: rest ∧ done.Nodup ∧ a ∈ done := by
  induction l using List.reverseRecOn with
  | nil => exact absurd List.nodup_nil h
  | append_singleton done a ih =>
    by_cases hdone : done.Nodup
    · refine ⟨done, a, [], rfl, hdone, by_contra fun hfresh => h ?_⟩
      exact List.nodup_append.2 ⟨hdone, List.nodup_singleton a, fun b hb c hc heq =>
        hfresh (List.mem_singleton.1 hc ▸ heq ▸ hb)⟩
    · obtain ⟨front, b, rest, rfl, hfront, hmem⟩ := ih hdone
      exact ⟨front, b, rest ++ [a], by simp, hfront, hmem⟩

/-- **An address that is given twice** is noticed at its second payment. -/
theorem fails_fundXAddresses (hknown : funder.KnownTo h.registry) (hsettled : h.outlook.Settled)
    (hne : funder.address ∉ addresses) (hempty : ∀ address ∈ addresses, h.x address = 0)
    (hpos : 0 < amount.toNat) (hheld : h.x funder.address < 2 ^ 64)
    (hfunds : addresses.length * (amount.toNat + h.fee) ≤ h.x funder.address)
    (hrepeated : ¬ addresses.Nodup) :
    Fails epoch base (funder.fundXAddresses addresses amount) now h fun failure _ _ =>
      ∃ address ∈ addresses, failure = .error (.balance (.mismatch .x address amount.toNat
        (2 * amount.toNat))) := by
  obtain ⟨done, address, rest, rfl, hdone, hmem⟩ := exists_repeated hrepeated
  rw [List.length_append, List.length_cons, Nat.add_mul, Nat.add_mul, Nat.one_mul] at hfunds
  have hother : address ≠ funder.address := fun heq => hne (by simp [← heq])
  have hpaid : (h.paidTo funder.address amount.toNat done).x address = amount.toNat := by
    rw [Holdings.paidTo_x_of_ne hother, hempty address (by simp),
      List.count_eq_one_of_mem hdone hmem, Nat.one_mul, Nat.zero_add]
  have hlength : 1 ≤ done.length := List.length_pos_of_mem hmem
  have hboth : amount.toNat + h.fee ≤ done.length * (amount.toNat + h.fee) :=
    Nat.le_mul_of_pos_left _ hlength
  rw [fundXAddresses_append]
  refine Drives.fails (drives_fundXAddresses hknown hsettled (fun hin => hne (by simp [hin]))
    (fun other hin => hempty other (by simp [hin])) (by omega) hdone) ?_
  rintro _ now _ ⟨rfl, rfl⟩
  have hpay : amount.toNat + h.fee
      ≤ (h.paidTo funder.address amount.toNat done).x funder.address := by
    rw [Holdings.paidTo_x_source]
    omega
  refine .bind ((fails_fundX (h := h.paidTo funder.address amount.toNat done) hknown hsettled
    hother hpay (by omega) (by omega)).mono ?_)
  rintro failure _ _ rfl
  exact ⟨address, by simp, by rw [hpaid, Nat.two_mul]⟩

/-- **Paying one address after the other** from a ledger: what comes out. -/
theorem runOn_fundXAddresses {ledger : Ledger} (hknown : funder.KnownTo ledger.registry)
    (hsettled : ledger.outlook.Settled) (hne : funder.address ∉ addresses)
    (hempty : ∀ address ∈ addresses, ledger.holdings.x address = 0) (hpos : 0 < amount.toNat)
    (hfunds : addresses.length * (amount.toNat + ledger.fee.toNat)
      ≤ ledger.holdings.x funder.address) :
    ∃ outcome later left, (funder.fundXAddresses addresses amount).runOn (Timeline.handler answer)
        (moment epoch base now ledger) = (outcome, moment epoch base later left)
      ∧ ((addresses.Nodup ∧ outcome = .ok ()
          ∧ left.holdings = ledger.holdings.paidTo funder.address amount.toNat addresses)
        ∨ ¬ addresses.Nodup ∧ ∃ address ∈ addresses, ∃ held, outcome = .error (.error
          (.balance (.mismatch .x address amount.toNat held)))) := by
  by_cases hnodup : addresses.Nodup
  · have hdrives : Drives epoch base _ now ledger.holdings _ :=
      drives_fundXAddresses hknown hsettled hne hempty hfunds hnodup
    obtain ⟨_, later, left, hrun, -, hleft⟩ := hdrives ledger rfl
    exact ⟨_, later, left, hrun, .inl ⟨hnodup, rfl, hleft⟩⟩
  · have hfails : Fails epoch base _ now ledger.holdings _ :=
      fails_fundXAddresses hknown hsettled hne hempty hpos (UInt64.toNat_lt _) hfunds hnodup
    obtain ⟨_, later, left, hrun, address, hmem, rfl⟩ := hfails ledger rfl
    exact ⟨_, later, left, hrun, .inr ⟨hnodup, address, hmem, _, rfl⟩⟩

/-! ## All together -/

/-- **Several outputs to one address** come to their sum. -/
theorem drives_sendOutputs (hknown : funder.KnownTo h.registry) (hsettled : h.outlook.Settled)
    (hne : address ≠ funder.address)
    (hfunds : amount.toNat * times + h.fee ≤ h.x funder.address)
    (hfits : h.x address + amount.toNat * times < 2 ^ 64) :
    Drives epoch base (funder.sendOutputs amount times address) now h fun _ later left =>
      later = now ∧ left = h.paidTo funder.address (amount.toNat * times) [address] := by
  generalize houtput : (⟨funder.settings.asset, amount, address⟩ : SendOutput) = output
  have hrecipient : output.recipient = address := by rw [← houtput]
  have hsum : times * output.amount.toNat = amount.toNat * times := by
    rw [← houtput, Nat.mul_comm]
  have hturns := Ledger.turns_xSendMultiple (List.replicate times output) hsettled
    hknown.xFirst ?recipients ?funds ?fits
  case recipients =>
    intro other hmem
    rw [List.eq_of_mem_replicate hmem, hrecipient]
    exact hne
  case funds =>
    rw [Ledger.outputSum_replicate, hsum]
    exact hfunds
  case fits =>
    intro other hmem
    rw [List.eq_of_mem_replicate hmem, Ledger.received_replicate, if_pos rfl, hsum, hrecipient]
    exact hfits
  unfold Funder.sendOutputs
  rw [houtput]
  refine Drives.bind (drives_step (fun _ => rfl) hturns) ?_
  rintro tx _ left ⟨rfl, hleft⟩
  refine (drives_awaitX (by rw [hleft]; exact hsettled)).mono ?_
  rintro _ _ _ ⟨rfl, rfl⟩
  refine ⟨rfl, hleft.trans ?_⟩
  rw [Holdings.paidTo_singleton hne]
  refine congrArg (fun x => { h with x }) (funext fun other => ?_)
  rw [Ledger.outputSum_replicate, Ledger.received_replicate, hsum, hrecipient]
  by_cases hother : address = other
  · subst hother
    rw [if_pos rfl, Function.update_self, Function.update_of_ne hne]
  · rw [if_neg hother, Function.update_of_ne (Ne.symm hother), Nat.add_zero]

/-- **Payments to all addresses**, repetitions among them. -/
theorem drives_sendAll (hknown : funder.KnownTo h.registry) (hsettled : h.outlook.Settled)
    (hne : funder.address ∉ addresses) (hempty : ∀ address ∈ addresses, h.x address = 0)
    (hheld : h.x funder.address < 2 ^ 64)
    (hfunds : addresses.length * (amount.toNat * times + h.fee) ≤ h.x funder.address) :
    Drives epoch base (addresses.forM (funder.sendOutputs amount times)) now h fun _ later left =>
      later = now ∧ left = h.paidTo funder.address (amount.toNat * times) addresses := by
  generalize hsum : amount.toNat * times = sum at hfunds ⊢
  refine Drives.forM (fun done later left =>
    later = now ∧ left = h.paidTo funder.address sum done) addresses ?_
    ⟨rfl, Holdings.paidTo_nil.symm⟩
  rintro done address rest rfl _ _ ⟨rfl, rfl⟩
  rw [List.length_append, List.length_cons, Nat.add_mul, Nat.add_mul, Nat.one_mul] at hfunds
  have hother : address ≠ funder.address := fun heq => hne (by simp [← heq])
  have hpay : sum + h.fee ≤ (h.paidTo funder.address sum done).x funder.address := by
    rw [Holdings.paidTo_x_source]
    omega
  -- what an address has received by now was paid by the funder
  have hreceived : (h.paidTo funder.address sum done).x address + sum < 2 ^ 64 := by
    rw [Holdings.paidTo_x_of_ne hother, hempty address (by simp), Nat.zero_add]
    have hcount : done.count address * sum ≤ done.length * sum :=
      Nat.mul_le_mul_right sum List.count_le_length
    rw [Nat.mul_add] at hfunds
    omega
  rw [← hsum] at hpay hreceived ⊢
  refine (drives_sendOutputs (h := h.paidTo funder.address (amount.toNat * times) done) hknown
    hsettled hother hpay hreceived).mono ?_
  rintro _ later left ⟨rfl, rfl⟩
  exact ⟨rfl, Holdings.paidTo_concat done address⟩

section Runs

variable {ledger : Ledger} {ended : Outcome StakingError Unit × Chronicle (Clients LocalClient)
  LocalNetwork}

/-- The checks come after all payments, whatever the scheduler does. -/
theorem runs_fundXAddressesMany_iff {left : Ledger}
    (hsent : (addresses.forM (funder.sendOutputs amount times)).runOn (Timeline.handler answer)
      (moment epoch base now ledger) = (.ok (), moment epoch base now left)) :
    (funder.fundXAddressesMany addresses amount times).Runs (Concurrent.Answers answer)
        (.blank (moment epoch base now ledger)) ended
      ↔ ∃ outcome, (Balance.checkAll funder.balances .x (addresses.map fun address =>
            (address, amount.toNat * times))).Runs (Concurrent.Answers answer)
          (.blank (moment epoch base now left)) (outcome, ended.2)
        ∧ ended.1 = outcome.mapError (Failure.map .balance) := by
  have honly : ∀ between, (Concurrent.lift (addresses.forM
        (funder.sendOutputs amount times))).Runs (Concurrent.Answers answer)
        (.blank (moment epoch base now ledger)) between
      ↔ between = (.ok (), .blank (moment epoch base now left)) := by
    intro between
    rw [Concurrent.runs_lift, show (Chronicle.blank (moment epoch base now ledger)
      : Chronicle (Clients LocalClient) LocalNetwork).time = moment epoch base now ledger from rfl,
      hsent]
    exact Iff.rfl
  unfold Funder.fundXAddressesMany
  rw [Attempt.runs_bind_ok honly, Attempt.runs_wrap]

/-- The scheduler of the library is one of many. -/
theorem runs_runOn_fundXAddressesMany {left : Ledger}
    (hsent : (addresses.forM (funder.sendOutputs amount times)).runOn (Timeline.handler answer)
      (moment epoch base now ledger) = (.ok (), moment epoch base now left)) :
    ∃ after, (funder.fundXAddressesMany addresses amount times).Runs (Concurrent.Answers answer)
      (.blank (moment epoch base now ledger))
      (((funder.fundXAddressesMany addresses amount times).runOn (Concurrent.handler answer)
        (moment epoch base now ledger)).1, after) := by
  obtain ⟨after, hrun⟩ := Balance.runs_runOn_checkAll answer funder.balances .x
    (addresses.map fun address => (address, amount.toNat * times)) (moment epoch base now left)
  refine ⟨after, (runs_fundXAddressesMany_iff hsent).2 ⟨_, hrun, ?_⟩⟩
  unfold Funder.fundXAddressesMany
  rw [Attempt.runOn_bind_ok ((Concurrent.runOn_lift answer _ _).trans hsent), Attempt.runOn_wrap]

/-- **The comparison in the end** looks at what the payments have left: it
passes if each address was paid once, and otherwise it names one that was not. -/
theorem ended_fundXAddressesMany {left : Ledger}
    (hsent : (addresses.forM (funder.sendOutputs amount times)).runOn (Timeline.handler answer)
      (moment epoch base now ledger) = (.ok (), moment epoch base now left))
    (hpaid : ∀ address ∈ addresses,
      left.holdings.x address = addresses.count address * (amount.toNat * times))
    (hpos : 0 < amount.toNat * times)
    (hrun : (funder.fundXAddressesMany addresses amount times).Runs (Concurrent.Answers answer)
      (.blank (moment epoch base now ledger)) ended) :
    ended.2.time = moment epoch base now left
      ∧ ((addresses.Nodup ∧ ended.1 = .ok ())
        ∨ ¬ addresses.Nodup ∧ ∃ address ∈ addresses, ∃ held, ended.1 = .error (.error
          (.balance (.mismatch .x address (amount.toNat * times) held)))) := by
  obtain ⟨outcome, hchecked, houtcome⟩ := (runs_fundXAddressesMany_iff hsent).1 hrun
  obtain ⟨htime, horder⟩ := Balance.runs_checkAll_of_observes
    (fun address => .ok (left.holdings.on .x address)) (fun pair _ => observes_nodeBalance) hchecked
  refine ⟨htime, ?_⟩
  -- an address has what is expected if and only if it was paid once
  have hpasses : (∀ pair ∈ addresses.map fun address => (address, amount.toNat * times),
        (.ok (left.holdings.on .x pair.1) : Outcome ApiError Nat) = .ok pair.2)
      ↔ addresses.Nodup := by
    rw [List.nodup_iff_count_eq_one, List.forall_mem_map]
    refine forall₂_congr fun address hmem => ?_
    rw [Except.ok.injEq, Holdings.on, hpaid address hmem]
    exact Nat.mul_eq_right hpos.ne'
  cases horder with
  | passed all => exact .inl ⟨hpasses.1 all, houtcome⟩
  | failed before pair after split earlier cause cause_eq =>
    have hmem : pair ∈ addresses.map fun address => (address, amount.toNat * times) :=
      split ▸ List.mem_append_right before List.mem_cons_self
    refine .inr ⟨fun hnodup => cause_eq.ne_ok (hpasses.2 hnodup pair hmem), ?_⟩
    obtain ⟨address, haddress, rfl⟩ := List.mem_map.1 hmem
    cases cause_eq with
    | mismatch _ differs => exact ⟨address, haddress, _, houtcome⟩

end Runs

/-! ## The two ways -/

/-- **What funding some addresses leaves**: each of them has the sum, the funder
has paid that and a fee for each, and nothing else is different. -/
structure Funds (funder : Funder LocalClient) (addresses : List String) (sum : Amount)
    (ledger left : Ledger) : Prop where
  each : ∀ address ∈ addresses, left.xBalance address = sum
  payer : (left.xBalance funder.address).toNat = (ledger.xBalance funder.address).toNat
    - addresses.length * (sum.toNat + ledger.fee.toNat)
  others : ∀ address ∉ addresses, address ≠ funder.address →
    left.xBalance address = ledger.xBalance address
  rest : { left.holdings with x := ledger.holdings.x } = ledger.holdings

/-- Holdings after payments to addresses that held nothing and are different
ones. -/
theorem Funds.of_paidTo {sum : Amount} {ledger left : Ledger}
    (hleft : left.holdings = ledger.holdings.paidTo funder.address sum.toNat addresses)
    (hne : funder.address ∉ addresses)
    (hempty : ∀ address ∈ addresses, ledger.holdings.x address = 0)
    (hnodup : addresses.Nodup) : Funds funder addresses sum ledger left := by
  have hx : ∀ address, (left.xBalance address).toNat
      = (ledger.holdings.paidTo funder.address sum.toNat addresses).x address :=
    fun address => congrFun (congrArg Holdings.x hleft) address
  constructor
  case each =>
    intro address hmem
    refine UInt64.toNat_inj.1 ((hx address).trans ?_)
    have hother : address ≠ funder.address := fun heq => hne (heq ▸ hmem)
    rw [Holdings.paidTo_x_of_ne hother, hempty address hmem,
      List.count_eq_one_of_mem hnodup hmem, Nat.one_mul, Nat.zero_add]
  case payer => exact (hx _).trans Holdings.paidTo_x_source
  case others =>
    intro address hmem hother
    refine UInt64.toNat_inj.1 ((hx address).trans ?_)
    rw [Holdings.paidTo_x_of_ne hother, List.count_eq_zero.2 hmem, Nat.zero_mul, Nat.add_zero]
    rfl
  case rest =>
    rw [hleft]
    rfl

/-- **Both ways of funding addresses agree.** From one ledger, on addresses that
hold nothing and a funder that can pay for all, paying a sum one address after
the other and paying it in several outputs and comparing in the end succeed if
and only if the addresses are different ones. Then both leave the same
balances: the sum on each address, and the funder has paid the sums and the
fees. Otherwise both name an address whose balance is not the sum. The
comparisons in the end may be interleaved in any way; the scheduler of the
library interleaves them in one of these. -/
theorem fundings_agree (base : LocalNetwork) (epoch now : Duration) {ledger : Ledger}
    {sum : Amount} (hknown : funder.KnownTo ledger.registry) (hsettled : ledger.outlook.Settled)
    (hne : funder.address ∉ addresses)
    (hempty : ∀ address ∈ addresses, ledger.xBalance address = 0)
    (hpos : 0 < amount.toNat * times) (hsum : sum.toNat = amount.toNat * times)
    (hfunds : addresses.length * (amount.toNat * times + ledger.fee.toNat)
      ≤ (ledger.xBalance funder.address).toNat) :
    let start := moment epoch base now ledger
    let single := (funder.fundXAddresses addresses sum).runOn (Timeline.handler answer) start
    let many := funder.fundXAddressesMany addresses amount times
    (∃ after, many.Runs (Concurrent.Answers answer) (.blank start)
        ((many.runOn (Concurrent.handler answer) start).1, after))
      ∧ ∀ ended, many.Runs (Concurrent.Answers answer) (.blank start) ended →
        (single.1 = .ok () ↔ addresses.Nodup)
          ∧ (ended.1 = .ok () ↔ addresses.Nodup)
          ∧ (addresses.Nodup →
            Funds funder addresses sum ledger single.2.world.ledger
              ∧ Funds funder addresses sum ledger ended.2.time.world.ledger
              ∧ ended.2.time.world.ledger.xBalance = single.2.world.ledger.xBalance)
          ∧ (¬ addresses.Nodup → ∀ outcome ∈ [single.1, ended.1], ∃ address ∈ addresses, ∃ held,
            outcome = .error (.error (.balance (.mismatch .x address sum.toNat held)))) := by
  intro start single many
  have hnothing : ∀ address ∈ addresses, ledger.holdings.x address = 0 := fun address hmem =>
    congrArg UInt64.toNat (hempty address hmem)
  have hheld : ledger.holdings.x funder.address < 2 ^ 64 := UInt64.toNat_lt _
  have hsends : Drives epoch base (addresses.forM (funder.sendOutputs amount times)) now
      ledger.holdings _ :=
    drives_sendAll hknown hsettled hne hnothing hheld hfunds
  obtain ⟨_, _, paid, hsent, hnow, hpaid⟩ := hsends ledger rfl
  rw [hnow] at hsent
  have hcounts : ∀ address ∈ addresses,
      paid.holdings.x address = addresses.count address * (amount.toNat * times) := by
    intro address hmem
    have hother : address ≠ funder.address := fun heq => hne (heq ▸ hmem)
    rw [hpaid, Holdings.paidTo_x_of_ne hother, hnothing address hmem, Nat.zero_add]
  refine ⟨runs_runOn_fundXAddressesMany hsent, fun ended hrun => ?_⟩
  obtain ⟨htime, hended⟩ := ended_fundXAddressesMany hsent hcounts hpos hrun
  have hone : ∃ outcome later left, single = (outcome, moment epoch base later left) ∧ _ :=
    runOn_fundXAddresses hknown hsettled hne hnothing (hsum ▸ hpos) (hsum ▸ hfunds)
  obtain ⟨outcome, later, left, hsingle, houtcome⟩ := hone
  rw [← hsum] at hpaid hended
  rw [hsingle]
  obtain ⟨hnodup, rfl, hleft⟩ | ⟨hrepeated, hmismatch⟩ := houtcome
  · -- both have paid, and the holdings are the same
    obtain ⟨-, hok⟩ | ⟨hrepeated, -⟩ := hended
    case inr => exact absurd hnodup hrepeated
    refine ⟨iff_of_true rfl hnodup, iff_of_true hok hnodup, fun _ => ?_, absurd hnodup⟩
    rw [htime]
    refine ⟨.of_paidTo hleft hne hnothing hnodup, .of_paidTo hpaid hne hnothing hnodup, ?_⟩
    refine funext fun address => UInt64.toNat_inj.1 ?_
    exact congrFun (congrArg Holdings.x (hpaid.trans hleft.symm)) address
  · obtain ⟨hnodup, -⟩ | ⟨-, hmismatchToo⟩ := hended
    case inl => exact absurd hnodup hrepeated
    obtain ⟨address, hmem, held, rfl⟩ := hmismatch
    obtain ⟨other, hother, heldToo, hended⟩ := hmismatchToo
    refine ⟨iff_of_false nofun hrepeated, iff_of_false (by simp [hended]) hrepeated,
      fun hnodup => absurd hnodup hrepeated, fun _ => ?_⟩
    refine List.forall_mem_cons.2 ⟨⟨address, hmem, held, rfl⟩, List.forall_mem_singleton.2 ?_⟩
    exact ⟨other, hother, heldToo, hended⟩

/-! ### A treasurer -/

/-- A ledger whose first funds belong to a user. -/
def treasury : Ledger :=
  { Ledger.ofGenesis Genesis.localNet 10 with
    users := ["tom"]
    xAddresses := ⟨[("tom", [Genesis.localNet.funded.address])]⟩ }

/-- The user to whom they belong, at a node. -/
def treasurer : Funder LocalClient where
  id := "m"
  client := ⟨"m", .v4 (.ofOctets 10 0 0 2)⟩
  user := ⟨"tom", "pw"⟩
  privateKey := Genesis.localNet.funded.privateKey
  address := Genesis.localNet.funded.address
  settings := stakingSettings

theorem treasurer_knownTo : treasurer.KnownTo treasury.registry :=
  ⟨List.mem_cons_self, rfl, rfl⟩

/-- Two addresses get three times five, in one transaction each. -/
theorem fundings_agree_pair :
    let start := moment .zero (LocalNetwork.ofGenesis Genesis.localNet 10) .zero treasury
    ((treasurer.fundXAddresses ["X-ann", "X-bob"] 15).runOn (Timeline.handler answer) start).1
        = .ok ()
      ∧ ∃ after, (treasurer.fundXAddressesMany ["X-ann", "X-bob"] 5 3).Runs
          (Concurrent.Answers answer) (.blank start) (.ok (), after)
        ∧ after.time.world.ledger.xBalance "X-bob" = 15 := by
  intro start
  have hne : treasurer.address ∉ ["X-ann", "X-bob"] := by decide
  have hempty : ∀ address ∈ ["X-ann", "X-bob"], treasury.xBalance address = 0 := by decide
  have hfunds : 2 * ((5 : Amount).toNat * 3 + treasury.fee.toNat)
      ≤ (treasury.xBalance treasurer.address).toNat := by decide
  have hpos : 0 < (5 : Amount).toNat * 3 := by decide
  have hsum : (15 : Amount).toNat = (5 : Amount).toNat * 3 := by decide
  have hnodup : ["X-ann", "X-bob"].Nodup := by decide
  have hagree := fundings_agree (LocalNetwork.ofGenesis Genesis.localNet 10) .zero .zero
    treasurer_knownTo (.of_quiet rfl) hne hempty hpos hsum hfunds
  obtain ⟨⟨after, hrun⟩, hall⟩ := hagree
  obtain ⟨hsingle, hmany, hsame, -⟩ := hall _ hrun
  have hok := hmany.2 hnodup
  dsimp only at hok
  rw [hok] at hrun
  exact ⟨hsingle.2 hnodup, after, hrun, (hsame hnodup).2.1.each "X-bob" (by simp)⟩

end LocalNetwork

end LedgerNet
