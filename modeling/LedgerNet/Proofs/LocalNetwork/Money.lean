import LedgerNet.Proofs.Ledger.Endings
import LedgerNet.Proofs.Ledger.Holdings
import LedgerNet.Rehearsal.LocalNetwork

/-!
# What becomes of the money of a network

All nodes of a network in memory share one ledger, so a call to any of them is
a call to that ledger, and what it does to the money there does not depend on
who is asked. `answer_ends` says what that is for every call there is.

Two things follow. Money is kept: whatever happens to a network, as long as it
succeeds, what is held and pending at the end, what was spent on fees and what
is bonded come to what was there in the beginning and what was minted. And a
call that fails changes nothing about the money, unless it is an import of no
more than the fee, which loses what it was to bring.
-/

namespace LedgerNet

namespace Call

/-- **How many fees a call spends**: one for each payment, export and
import. -/
def fees : Call → Nat
  | xSend _ _ _ _ => 1
  | xSendMultiple _ _ => 1
  | xExport _ _ _ => 1
  | xImport _ _ _ => 1
  | pImport _ _ _ => 1
  | pExport _ _ _ => 1
  | cImport _ _ _ => 1
  | _ => 0

/-- **What a call bonds.** -/
def bonded : Call → Nat
  | addValidator _ request _ => request.stake.toNat
  | addDelegator _ request => request.stake.toNat
  | _ => 0

/-- **What a call asks to be moved**, before the fee. -/
def asked : Call → Nat
  | xSend _ amount _ _ => amount.toNat
  | xSendMultiple _ outputs => Ledger.outputSum outputs
  | xExport _ amount _ => amount.toNat
  | pExport _ _ amount => amount.toNat
  | _ => 0

/-- **The address whose pending amount a call claims**, if it gets so far. -/
def claimed (ledger : Ledger) : Call → Option String
  | xImport user recipient _ => ledger.importClaim user recipient
  | pImport user recipient _ => ledger.importClaim user recipient
  | cImport user _ _ => ledger.contractClaim user
  | _ => none

end Call

namespace LocalNetwork

variable {α : Type} {call : Call} {client : LocalClient} {network left : LocalNetwork}

/-! ## One call -/

/-- **How a call to a node ends.** It changes the ledger and nothing else of
the network. -/
def CallEnds (call : Call) (network : LocalNetwork) : Outcome ApiError α × LocalNetwork → Prop
  | (.ok _, left) => ∃ ledger, left = { network with ledger }
    ∧ network.ledger.Moved (network.ledger.fee.toNat * call.fees + call.bonded) 0 ledger
  | (.error (.error _), left) => ∃ ledger, left = { network with ledger }
    ∧ network.ledger.ClaimRefused (call.claimed network.ledger) ledger
  | (.error (.crash _), _) => network.ledger.Overfull call.asked

/-- A call that is one to the ledger. -/
theorem callEnds_onLedger {action : LedgerAction α} {spent : Nat} {refused : Ledger → Prop}
    {crashed : Prop}
    (h : Ledger.Ends action network.ledger (fun _ left => network.ledger.Moved spent 0 left)
      refused crashed)
    (hspent : spent = network.ledger.fee.toNat * call.fees + call.bonded)
    (hrefused : ∀ left, refused left →
      network.ledger.ClaimRefused (call.claimed network.ledger) left)
    (hcrashed : crashed → network.ledger.Overfull call.asked) :
    CallEnds call network (onLedger action network) := by
  subst hspent
  have hends := h.mono (fun _ _ hmoved => hmoved) hrefused hcrashed
  unfold Ledger.Ends at hends
  unfold onLedger
  rcases hrun : action.run.run network.ledger with ⟨⟨cause | cause⟩ | value, ledger⟩
    <;> rw [hrun] at hends
  · exact ⟨ledger, rfl, hends⟩
  · exact hends
  · exact ⟨ledger, rfl, hends⟩

/-- A call that only looks. -/
theorem callEnds_look (value : α) (hfees : call.fees = 0) (hbonded : call.bonded = 0) :
    CallEnds call network (.ok value, network) :=
  ⟨network.ledger, rfl, by
    rw [hfees, hbonded]
    exact Ledger.Moved.refl network.ledger⟩

/-- **How any call to any node ends.** -/
theorem answer_ends (client : LocalClient) (call : Call) (network : LocalNetwork) :
    CallEnds call network (answer (client, call) network) := by
  have hfee : network.ledger.fee.toNat = network.ledger.fee.toNat * 1 + 0 := by omega
  cases call with
  | nodeId => exact callEnds_look _ rfl rfl
  | isBootstrapped lane => exact callEnds_look _ rfl rfl
  | peers => exact callEnds_look _ rfl rfl
  | createUser user =>
    exact callEnds_onLedger (Ledger.ends_createUser _ _) rfl (fun _ h => h) False.elim
  | xCreateAddress user =>
    exact callEnds_onLedger (Ledger.ends_xCreateAddress _ _) rfl (fun _ h => h) False.elim
  | xImportKey user key =>
    exact callEnds_onLedger (Ledger.ends_xImportKey _ _ _) rfl (fun _ h => h) False.elim
  | xSend user amount asset recipient =>
    exact callEnds_onLedger (Ledger.ends_xSend _ _ _ _) hfee (fun _ h => h) id
  | xSendMultiple user outputs =>
    exact callEnds_onLedger (Ledger.ends_xSendMultiple _ _ _) hfee (fun _ h => h) id
  | xExport user amount recipient =>
    exact callEnds_onLedger (Ledger.ends_xExport _ _ _ _) hfee (fun _ h => h) id
  | xImport user recipient source =>
    exact callEnds_onLedger (Ledger.ends_xImport _ _ _) hfee (fun _ h => h) id
  | xStatus tx =>
    exact callEnds_onLedger (Ledger.ends_xStatus _ _) rfl (fun _ h => h.elim) False.elim
  | xBalance address asset => exact callEnds_look _ rfl rfl
  | pCreateAddress user =>
    exact callEnds_onLedger (Ledger.ends_pCreateAddress _ _) rfl (fun _ h => h) False.elim
  | pImport user recipient source =>
    exact callEnds_onLedger (Ledger.ends_pImport _ _ _) hfee (fun _ h => h) id
  | pExport user recipient amount =>
    exact callEnds_onLedger (Ledger.ends_pExport _ _ _ _) hfee (fun _ h => h) id
  | addValidator user request feeRate =>
    exact callEnds_onLedger (Ledger.ends_addValidator _ _ _) (Nat.zero_add _).symm (fun _ h => h)
      False.elim
  | addDelegator user request =>
    exact callEnds_onLedger (Ledger.ends_addDelegator _ _ _) (Nat.zero_add _).symm (fun _ h => h)
      False.elim
  | pStatus tx =>
    exact callEnds_onLedger (Ledger.ends_pStatus _ _) rfl (fun _ h => h.elim) False.elim
  | pBalance address => exact callEnds_look _ rfl rfl
  | validators => exact callEnds_look _ rfl rfl
  | cImportKey user key =>
    exact callEnds_onLedger (Ledger.ends_cImportKey _ _ _) rfl (fun _ h => h) False.elim
  | cImport user recipient source =>
    exact callEnds_onLedger (Ledger.ends_cImport _ _ _) hfee (fun _ h => h) id
  | cBalance address => exact callEnds_look _ rfl rfl

/-! ## Whatever happens -/

/-- **What can happen to a network in memory**: calls to its nodes, and what a
rehearsal changes directly. -/
inductive Act where
  | call (client : LocalClient) (call : Call)
  | mint (address : String) (amount : Amount)
  | scriptX (states : List XStatus)
  | scriptP (states : List PStatus)
  | hideValidators
  | holdBack (service : String)
  | release (service : String)
  | setPeers (ip : Ip) (peers : List ConnectedPeer)
  | start (spec : ServiceSpec)
  | stop (id : String)

namespace Act

/-- **What an act comes to.** -/
def perform : Act → LocalNetwork → Outcome ApiError Unit × LocalNetwork
  | .call client call, network =>
    ((answer (client, call) network).1.map fun _ => (), (answer (client, call) network).2)
  | .mint address amount, network => onLedger (Ledger.mint address amount) network
  | .scriptX states, network => (.ok (), { network with ledger := network.ledger.scriptX states })
  | .scriptP states, network => (.ok (), { network with ledger := network.ledger.scriptP states })
  | .hideValidators, network => (.ok (), { network with ledger := network.ledger.hideValidators })
  | .holdBack service, network => (.ok (), network.holdBack service)
  | .release service, network => (.ok (), network.release service)
  | .setPeers ip peers, network => (.ok (), network.setPeers ip peers)
  | .start spec, network => (.ok (), (LocalNetwork.start spec network).2)
  | .stop id, network => (.ok (), (LocalNetwork.stop id network).2)

/-- What is minted. -/
def minted : Act → Nat
  | .mint _ amount => amount.toNat
  | _ => 0

/-- What a call asks to be moved. -/
def asked : Act → Nat
  | .call _ call => call.asked
  | _ => 0

/-- How many fees are spent. -/
def fees : Act → Nat
  | .call _ call => call.fees
  | _ => 0

/-- What is bonded. -/
def bonded : Act → Nat
  | .call _ call => call.bonded
  | _ => 0

end Act

/-- **One act after the other**, whether they succeed or not, with the outcome
of each. -/
def performAll : List Act → LocalNetwork → List (Outcome ApiError Unit) × LocalNetwork
  | [], network => ([], network)
  | act :: rest, network =>
    let performed := act.perform network
    let later := performAll rest performed.2
    (performed.1 :: later.1, later.2)

/-- Services are none of the ledger's business. -/
theorem ledger_start (spec : ServiceSpec) (network : LocalNetwork) :
    (LocalNetwork.start spec network).2.ledger = network.ledger := by
  unfold LocalNetwork.start
  dsimp only
  split
  · rfl
  · split <;> rfl

theorem ledger_stop (id : String) (network : LocalNetwork) :
    (LocalNetwork.stop id network).2.ledger = network.ledger := by
  unfold LocalNetwork.stop
  split <;> rfl

/-- What is lost when a call is refused. -/
theorem moved_of_claimRefused {ledger left : Ledger} {claimed : Option String}
    (h : ledger.ClaimRefused claimed left) : ∃ lost, ledger.Moved lost 0 left := by
  cases claimed with
  | none =>
    obtain rfl : left = ledger := h
    exact ⟨0, Ledger.Moved.refl _⟩
  | some address =>
    obtain ⟨-, rfl⟩ : ledger.Forfeits address left := h
    exact ⟨_, Ledger.Moved.erasePending ledger address⟩

namespace Act

/-- **How an act ends**, where there is room for what is minted and for what a
call asks for. It succeeds and is paid for, or it is refused and something may
be lost. -/
inductive Ending (act : Act) (network : LocalNetwork) :
    Outcome ApiError Unit × LocalNetwork → Prop where
  | succeeded {left : LocalNetwork}
    (hmoved : network.ledger.Moved (network.ledger.fee.toNat * act.fees + act.bonded) act.minted
      left.ledger) : Ending act network (.ok (), left)
  | refused {cause : ApiError} {left : LocalNetwork} {lost : Nat}
    (hmoved : network.ledger.Moved lost act.minted left.ledger) :
    Ending act network (.error (.error cause), left)

/-- What a rehearsal changes beside the money. -/
theorem ending_beside {act : Act} (hperform : act.perform network = (.ok (), left))
    (hfees : act.fees = 0) (hbonded : act.bonded = 0) (hminted : act.minted = 0)
    (hmoved : network.ledger.Moved 0 0 left.ledger) :
    Ending act network (act.perform network) := by
  rw [hperform]
  refine Ending.succeeded ?_
  rw [hfees, hbonded, hminted]
  exact hmoved

/-- A credit out of nothing. -/
theorem ending_mint (address : String) (amount : Amount) (htidy : network.ledger.Tidy)
    (hroom : network.ledger.worth + amount.toNat < 2 ^ 64) :
    Ending (.mint address amount) network ((Act.mint address amount).perform network) := by
  have hends := Ledger.ends_creditX network.ledger address amount "mint"
  rw [perform, onLedger, Ledger.mint]
  unfold Ledger.Ends at hends
  rcases hrun : (Ledger.adjustX address amount 0 "mint").run.run network.ledger
    with ⟨⟨cause | cause⟩ | value, ledger⟩ <;> rw [hrun] at hends
  · exact hends.elim
  · exact absurd (hends htidy) (Nat.not_le.2 hroom)
  · exact Ending.succeeded hends

/-- A call to a node. -/
theorem ending_call (client : LocalClient) (call : Call) (htidy : network.ledger.Tidy)
    (hroom : network.ledger.worth < 2 ^ 64)
    (hasked : call.asked + network.ledger.fee.toNat < 2 ^ 64) :
    Ending (.call client call) network ((Act.call client call).perform network) := by
  have hends := answer_ends client call network
  rw [perform]
  rcases hanswer : answer (client, call) network with ⟨⟨cause | cause⟩ | value, left⟩
    <;> rw [hanswer] at hends
  · obtain ⟨ledger, rfl, hrefused⟩ := hends
    obtain ⟨lost, hmoved⟩ := moved_of_claimRefused hrefused
    exact Ending.refused hmoved
  · have hfull : network.ledger.Overfull call.asked := hends
    rcases hfull htidy with hlarge | hlarge
    · exact absurd hlarge (Nat.not_le.2 hroom)
    · exact absurd hlarge (Nat.not_le.2 hasked)
  · obtain ⟨ledger, rfl, hmoved⟩ := hends
    exact Ending.succeeded hmoved

/-- **How any act ends.** -/
theorem perform_ends (act : Act) (htidy : network.ledger.Tidy)
    (hroom : network.ledger.worth + act.minted < 2 ^ 64)
    (hasked : act.asked + network.ledger.fee.toNat < 2 ^ 64) :
    Ending act network (act.perform network) := by
  have hsame := Ledger.Moved.refl network.ledger
  cases act with
  | call client call => exact ending_call client call htidy hroom hasked
  | mint address amount => exact ending_mint address amount htidy hroom
  | scriptX states => exact ending_beside rfl rfl rfl rfl (hsame.of_books rfl rfl rfl rfl rfl)
  | scriptP states => exact ending_beside rfl rfl rfl rfl (hsame.of_books rfl rfl rfl rfl rfl)
  | hideValidators => exact ending_beside rfl rfl rfl rfl (hsame.of_books rfl rfl rfl rfl rfl)
  | holdBack service => exact ending_beside rfl rfl rfl rfl hsame
  | release service => exact ending_beside rfl rfl rfl rfl hsame
  | setPeers ip peers => exact ending_beside rfl rfl rfl rfl hsame
  | start spec =>
    exact ending_beside rfl rfl rfl rfl (by rw [ledger_start]; exact hsame)
  | stop id => exact ending_beside rfl rfl rfl rfl (by rw [ledger_stop]; exact hsame)

end Act

/-- What is minted by some acts. -/
def mintedBy (acts : List Act) : Nat := (acts.map Act.minted).sum

/-- How many fees some acts spend. -/
def feesOf (acts : List Act) : Nat := (acts.map Act.fees).sum

/-- What some acts bond. -/
def bondedBy (acts : List Act) : Nat := (acts.map Act.bonded).sum

/-- **What a run leaves**: no act has crashed, nothing was made out of
nothing, and if every act has succeeded, nothing was lost. -/
structure Accounted (acts : List Act) (network : LocalNetwork)
    (outcomes : List (Outcome ApiError Unit)) (left : LocalNetwork) : Prop where
  no_crash : ∀ outcome ∈ outcomes, ∀ cause, outcome ≠ Outcome.crashed cause
  tidy : left.ledger.Tidy
  worth_le : left.ledger.worth ≤ network.ledger.worth + mintedBy acts
  worth_eq : (∀ outcome ∈ outcomes, outcome = .ok ()) →
    left.ledger.worth + network.ledger.fee.toNat * feesOf acts + bondedBy acts
      = network.ledger.worth + mintedBy acts

namespace Accounted

variable {act : Act} {acts : List Act} {final : LocalNetwork}
  {outcomes : List (Outcome ApiError Unit)}

/-- Nothing happens. -/
theorem nil (htidy : network.ledger.Tidy) : Accounted [] network [] network where
  no_crash _ hmem := absurd hmem List.not_mem_nil
  tidy := htidy
  worth_le := Nat.le_refl _
  worth_eq _ := rfl

/-- **An act that succeeds** in front. -/
theorem cons_of_succeeded (htidy : network.ledger.Tidy)
    (hmoved : network.ledger.Moved (network.ledger.fee.toNat * act.fees + act.bonded) act.minted
      left.ledger)
    (h : Accounted acts left outcomes final) :
    Accounted (act :: acts) network (.ok () :: outcomes) final := by
  have hminted : mintedBy (act :: acts) = act.minted + mintedBy acts := List.sum_cons
  have hfees : feesOf (act :: acts) = act.fees + feesOf acts := List.sum_cons
  have hbonded : bondedBy (act :: acts) = act.bonded + bondedBy acts := List.sum_cons
  have hworth := hmoved.worth_eq htidy
  have hle := h.worth_le
  refine ⟨?_, h.tidy, by omega, fun hall => ?_⟩
  · exact List.forall_mem_cons.2 ⟨fun _ => by simp [Outcome.crashed], h.no_crash⟩
  · have hrest := h.worth_eq (List.forall_mem_cons.1 hall).2
    rw [hmoved.fee_eq] at hrest
    rw [hfees, Nat.mul_add]
    omega

/-- **An act that is refused** in front. -/
theorem cons_of_refused {cause : ApiError} {lost : Nat} (htidy : network.ledger.Tidy)
    (hmoved : network.ledger.Moved lost act.minted left.ledger)
    (h : Accounted acts left outcomes final) :
    Accounted (act :: acts) network (.error (.error cause) :: outcomes) final := by
  have hminted : mintedBy (act :: acts) = act.minted + mintedBy acts := List.sum_cons
  have hworth := hmoved.worth_eq htidy
  have hle := h.worth_le
  refine ⟨?_, h.tidy, by omega, fun hall => ?_⟩
  · exact List.forall_mem_cons.2 ⟨fun _ => by simp [Outcome.crashed], h.no_crash⟩
  · exact absurd (List.forall_mem_cons.1 hall).1 (by simp)

end Accounted

/-- **Whatever happens to a network**, its money is accounted for. -/
theorem performAll_accounted (acts : List Act) (network : LocalNetwork)
    (htidy : network.ledger.Tidy) (hroom : network.ledger.worth + mintedBy acts < 2 ^ 64)
    (hasked : ∀ act ∈ acts, act.asked + network.ledger.fee.toNat < 2 ^ 64) :
    Accounted acts network (performAll acts network).1 (performAll acts network).2 := by
  induction acts generalizing network with
  | nil => exact Accounted.nil htidy
  | cons act rest ih =>
    have hminted : mintedBy (act :: rest) = act.minted + mintedBy rest := List.sum_cons
    have hends := act.perform_ends htidy (by omega) (hasked act List.mem_cons_self)
    -- what the other acts do is accounted for on whatever the first one leaves
    have hlater : ∀ {spent : Nat} {left : LocalNetwork},
        network.ledger.Moved spent act.minted left.ledger →
        Accounted rest left (performAll rest left).1 (performAll rest left).2 := by
      intro spent left hmoved
      have hworth := hmoved.worth_eq htidy
      refine ih left (hmoved.tidy htidy) (by omega) fun other hother => ?_
      rw [hmoved.fee_eq]
      exact hasked other (List.mem_cons_of_mem _ hother)
    show Accounted (act :: rest) network
      ((act.perform network).1 :: (performAll rest (act.perform network).2).1)
      (performAll rest (act.perform network).2).2
    generalize act.perform network = performed at hends ⊢
    cases hends with
    | succeeded hmoved => exact Accounted.cons_of_succeeded htidy hmoved (hlater hmoved)
    | refused hmoved => exact Accounted.cons_of_refused htidy hmoved (hlater hmoved)

/-- **Money is kept.** Whatever happens to a network from its beginning, no
addition of amounts overflows as long as all that is minted has room and each
call asks for an amount that leaves room for the fee. What all addresses hold,
what is pending, the fees that were spent and the stakes that were bonded come
to the first funds and what was minted, if no act is refused. -/
theorem performAll_conserves (genesis : Genesis) (fee : Amount) (acts : List Act)
    (hroom : Ledger.fundedBalance.toNat + mintedBy acts < 2 ^ 64)
    (hasked : ∀ act ∈ acts, act.asked + fee.toNat < 2 ^ 64) :
    let performed := performAll acts (ofGenesis genesis fee)
    (∀ outcome ∈ performed.1, ∀ cause, outcome ≠ Outcome.crashed cause)
      ∧ performed.2.ledger.Tidy
      ∧ (∀ address, performed.2.ledger.cBalance address < 2 ^ 64)
      ∧ ((∀ outcome ∈ performed.1, outcome = .ok ()) →
        performed.2.ledger.worth + fee.toNat * feesOf acts + bondedBy acts
          = Ledger.fundedBalance.toNat + mintedBy acts) := by
  have hworth : (ofGenesis genesis fee).ledger.worth = Ledger.fundedBalance.toNat :=
    Ledger.worth_ofGenesis genesis fee
  have haccounted := performAll_accounted acts (ofGenesis genesis fee)
    (Ledger.tidy_ofGenesis genesis fee) (by rw [hworth]; exact hroom) hasked
  obtain ⟨hcrash, htidy, hle, heq⟩ := haccounted
  rw [hworth] at hle heq
  refine ⟨hcrash, htidy, fun address => ?_, heq⟩
  have hbalance := Ledger.cBalance_le_worth
    (performAll acts (ofGenesis genesis fee)).2.ledger address
  omega

/-! ### A tour of the lanes -/

/-- A node to ask. -/
def guide : LocalClient := ⟨"guide", .v4 (.ofOctets 10 0 0 2)⟩

/-- A user who travels. -/
def traveller : User := ⟨"traveller", "secret"⟩

/-- A first ledger without stakers. -/
def bareGenesis : Genesis := ⟨[], ⟨"X-funded", "key"⟩⟩

/-- **A tour**: the traveller holds the first funds, pays to the same address
and to another one twice, crosses over to the platform lane and stakes there. -/
def tour : List Act := [
  .call guide (.createUser traveller),
  .call guide (.xImportKey traveller "key"),
  .call guide (.pCreateAddress traveller),
  .mint "X-friend" 5,
  .call guide (.xSend traveller 100 "AVAX" "X-funded"),
  .call guide (.xSendMultiple traveller [⟨"AVAX", 7, "X-friend"⟩, ⟨"AVAX", 7, "X-friend"⟩]),
  .call guide (.xExport traveller 50 "P-local1traveller0"),
  .call guide (.pImport traveller "P-local1traveller0" "X"),
  .call guide (.addDelegator traveller ⟨"NodeID-1", "P-local1traveller0", 30, 0, 1⟩)]

/-- Two payments, an export and an import cost four fees, and a stake is
bonded. -/
theorem performAll_conserves_tour :
    (∀ outcome ∈ (performAll tour (ofGenesis bareGenesis 10)).1, outcome = .ok ())
      ∧ (performAll tour (ofGenesis bareGenesis 10)).2.ledger.worth + 10 * 4 + 30
        = Ledger.fundedBalance.toNat + 5 := by
  have hall : ∀ outcome ∈ (performAll tour (ofGenesis bareGenesis 10)).1, outcome = .ok () := by
    decide +kernel
  exact ⟨hall, (performAll_conserves bareGenesis 10 tour (by decide) (by decide)).2.2.2 hall⟩

/-! ## Calls that are refused -/

/-- **A call that is refused** changes nothing of the network but the ledger,
and nothing of what the ledger comes to, with one exception. An import whose
pending amount is no more than the fee loses it. -/
theorem answer_refused {cause : ApiError}
    (h : answer (client, call) network = (.error (.error cause), left)) :
    left = { network with ledger := left.ledger }
      ∧ (left.ledger.holdings = network.ledger.holdings
        ∨ ∃ address, call.claimed network.ledger = some address
          ∧ 0 < network.ledger.holdings.pending address
          ∧ network.ledger.holdings.pending address ≤ network.ledger.holdings.fee
          ∧ left.ledger.holdings = { network.ledger.holdings with
            pending := Function.update network.ledger.holdings.pending address 0 }) := by
  have hends := answer_ends client call network
  rw [h] at hends
  obtain ⟨ledger, rfl, hrefused⟩ := hends
  refine ⟨rfl, ?_⟩
  cases hclaimed : call.claimed network.ledger with
  | none =>
    rw [hclaimed] at hrefused
    obtain rfl : ledger = network.ledger := hrefused
    exact Or.inl rfl
  | some address =>
    rw [hclaimed] at hrefused
    obtain ⟨hle, rfl⟩ : network.ledger.Forfeits address ledger := hrefused
    have herased : ({ network.ledger with pending := network.ledger.pending.erase address } :
        Ledger).holdings = { network.ledger.holdings with
          pending := Function.update network.ledger.holdings.pending address 0 } :=
      congrArg (fun pending => { network.ledger.holdings with pending })
        (Book.getD_erase UInt64.toNat network.ledger.pending address 0)
    rcases Nat.eq_zero_or_pos (network.ledger.holdings.pending address) with hzero | hpos
    · refine Or.inl (herased.trans ?_)
      rw [← hzero, Function.update_eq_self]
    · exact Or.inr ⟨address, rfl, hpos, UInt64.le_iff_toNat_le.1 hle, herased⟩

/-- The traveller crosses over with less than it costs to arrive. -/
def shortTour : List Act := [
  .call guide (.createUser traveller),
  .call guide (.xImportKey traveller "key"),
  .call guide (.xExport traveller 8 "P-friend")]

/-- Who pays more than there is has paid nothing. -/
theorem answer_refused_overdraft :
    let network := (performAll shortTour (ofGenesis bareGenesis 10)).2
    let answered := answer (guide, .xSend traveller 9000000000000000000 "AVAX" "X-friend") network
    answered.1 = Outcome.failed (.rpc "avm.send" (-32000) "insufficient funds on X-funded")
      ∧ answered.2.ledger.holdings = network.ledger.holdings := by
  intro network answered
  have hrefused : answered.1
      = Outcome.failed (.rpc "avm.send" (-32000) "insufficient funds on X-funded") := by
    decide +kernel
  have hanswer : answer (guide, .xSend traveller 9000000000000000000 "AVAX" "X-friend") network
      = (Outcome.failed (.rpc "avm.send" (-32000) "insufficient funds on X-funded"), answered.2) :=
    Prod.ext hrefused rfl
  refine ⟨hrefused, ?_⟩
  rcases (answer_refused hanswer).2 with hsame | hlost
  · exact hsame
  · obtain ⟨address, hclaimed, -⟩ := hlost
    exact absurd hclaimed (by simp [Call.claimed])

/-- **An import of no more than the fee** is refused, and what it was to bring
is gone. -/
theorem answer_forfeits_dust :
    let network := (performAll shortTour (ofGenesis bareGenesis 10)).2
    let answered := answer (guide, .pImport traveller "P-friend" "X") network
    answered.1 = Outcome.failed
        (.rpc "platform.importAVAX" (-32000) "no funds to import for P-friend")
      ∧ network.ledger.holdings.pending "P-friend" = 8
      ∧ answered.2.ledger.holdings.pending "P-friend" = 0 := by
  decide +kernel

end LocalNetwork

end LedgerNet
