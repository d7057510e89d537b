import LedgerNet.Proofs.Ledger.Holdings

/-!
# What the calls do to a ledger

Each call that moves money, or that enters somebody, with what it needs to
succeed and what it does to the holdings then. The conditions are
inequalities between natural numbers: there is enough where money is taken
from, and room where it goes. No condition says that an amount and a fee are
an amount together, since what an address holds is one.

Nothing is in store for the transactions of this module.
-/

namespace LedgerNet

namespace Ledger

variable {h : Holdings} {user : User} {source recipient : String} {amount : Amount}

/-- **A call turns holdings into others**: on every ledger that comes to the
first ones it succeeds, with a result and holdings as described. -/
def Turns {α : Type} (action : LedgerAction α) (h : Holdings) (post : α → Holdings → Prop) :
    Prop :=
  ∀ ledger : Ledger, ledger.holdings = h →
    Succeeds action ledger fun value left => post value left.holdings

/-! ## Users and addresses -/

/-- **A new user.** -/
theorem turns_createUser (hnew : user.name ∉ h.registry.users) :
    Turns (createUser user) h fun _ left =>
      left = { h with
        registry := { h.registry with users := h.registry.users ++ [user.name] } } := by
  rintro ledger rfl
  refine Succeeds.get_bind ?_
  rw [if_neg (show user.name ∉ ledger.users from hnew)]
  exact Succeeds.of_modify rfl

/-- **A new address on the exchange lane.** -/
theorem turns_xCreateAddress (huser : user.name ∈ h.registry.users) :
    Turns (xCreateAddress user) h fun address left =>
      address = newAddress .x user (h.registry.xAddresses user.name)
        ∧ left = { h with
          registry := { h.registry with
            xAddresses := Function.update h.registry.xAddresses user.name
              (h.registry.xAddresses user.name ++ [address]) } } := by
  rintro ledger rfl
  refine checkUser_bind rfl huser (Succeeds.of_modifyGet ⟨rfl, ?_⟩)
  exact congrArg (fun registry => { ledger.holdings with registry }) (registry_putX ledger _ _)

/-- **A new address on the platform lane.** -/
theorem turns_pCreateAddress (huser : user.name ∈ h.registry.users) :
    Turns (pCreateAddress user) h fun address left =>
      address = newAddress .p user (h.registry.pAddresses user.name)
        ∧ left = { h with
          registry := { h.registry with
            pAddresses := Function.update h.registry.pAddresses user.name
              (h.registry.pAddresses user.name ++ [address]) } } := by
  rintro ledger rfl
  refine checkUser_bind rfl huser (Succeeds.of_modifyGet ⟨rfl, ?_⟩)
  exact congrArg (fun registry => { ledger.holdings with registry }) (registry_putP ledger _ _)

/-- **The key of the funded account** makes its address the user's first. -/
theorem turns_xImportKey {key : String} (huser : user.name ∈ h.registry.users)
    (hkey : key = h.registry.fundedKey) :
    Turns (xImportKey user key) h fun address left =>
      address = h.registry.fundedAddress
        ∧ left = { h with
          registry := { h.registry with
            xAddresses := Function.update h.registry.xAddresses user.name
              (h.registry.fundedAddress :: h.registry.xAddresses user.name) } } := by
  rintro ledger rfl
  refine checkUser_bind rfl huser (Succeeds.get_bind ?_)
  rw [if_pos (show key = ledger.fundedKey from hkey)]
  refine Succeeds.of_modifyGet ⟨rfl, ?_⟩
  exact congrArg (fun registry => { ledger.holdings with registry }) (registry_putX ledger _ _)

/-! ## Payments -/

/-- **A payment** costs the amount and a fee. -/
theorem turns_xSend (hsettled : h.outlook.Settled)
    (hsource : (h.registry.xAddresses user.name).head? = some source) (hne : recipient ≠ source)
    (hfunds : amount.toNat + h.fee ≤ h.x source)
    (hfits : h.x recipient + amount.toNat < 2 ^ 64) :
    Turns (xSend user amount recipient) h fun _ left =>
      left = { h with
        x := Function.update
          (Function.update h.x source (h.x source - (amount.toNat + h.fee)))
          recipient (h.x recipient + amount.toNat) } := by
  intro ledger hledger
  refine Succeeds.get_bind (xSource_bind hledger hsource (payX_bind hledger hfunds ?_))
  intro paid hpaid
  have hheld : Function.update h.x source (h.x source - (amount.toNat + h.fee)) recipient
      = h.x recipient := Function.update_of_ne hne _ _
  refine Succeeds.bind (succeeds_creditX hpaid ?_) ?_
  · simp only [hheld]
    exact hfits
  intro _ received hreceived
  simp only [hheld] at hreceived
  exact succeeds_submitX hreceived hsettled

/-- **An export to the platform lane** costs the amount and a fee, and the
amount is pending until it is imported. -/
theorem turns_xExport (hsettled : h.outlook.Settled)
    (hsource : (h.registry.xAddresses user.name).head? = some source)
    (hfunds : amount.toNat + h.fee ≤ h.x source)
    (hfits : h.pending recipient + amount.toNat < 2 ^ 64) :
    Turns (xExport user amount recipient) h fun _ left =>
      left = { h with
        x := Function.update h.x source (h.x source - (amount.toNat + h.fee))
        pending := Function.update h.pending recipient (h.pending recipient + amount.toNat) } := by
  intro ledger hledger
  refine Succeeds.get_bind (xSource_bind hledger hsource (payX_bind hledger hfunds ?_))
  intro paid hpaid
  refine Succeeds.bind (succeeds_park hpaid hfits) ?_
  intro _ parked hparked
  exact succeeds_submitX hparked hsettled

/-- **An export to the exchange lane**, likewise. -/
theorem turns_pExport (hsettled : h.outlook.Settled)
    (hsource : (h.registry.pAddresses user.name).head? = some source)
    (hfunds : amount.toNat + h.fee ≤ h.p source)
    (hfits : h.pending recipient + amount.toNat < 2 ^ 64) :
    Turns (pExport user recipient amount) h fun _ left =>
      left = { h with
        p := Function.update h.p source (h.p source - (amount.toNat + h.fee))
        pending := Function.update h.pending recipient (h.pending recipient + amount.toNat) } := by
  intro ledger hledger
  refine Succeeds.get_bind (pSource_bind hledger hsource (payP_bind hledger hfunds ?_))
  intro paid hpaid
  refine Succeeds.bind (succeeds_park hpaid hfits) ?_
  intro _ parked hparked
  exact succeeds_submitP hparked hsettled

/-- **An import to the exchange lane** brings what is pending, less a fee. -/
theorem turns_xImport (hsettled : h.outlook.Settled)
    (huser : user.name ∈ h.registry.users) (hpending : h.fee < h.pending recipient)
    (hfits : h.x recipient + (h.pending recipient - h.fee) < 2 ^ 64) :
    Turns (xImport user recipient) h fun _ left =>
      left = { h with
        x := Function.update h.x recipient (h.x recipient + (h.pending recipient - h.fee))
        pending := Function.update h.pending recipient 0 } := by
  intro ledger hledger
  refine checkUser_bind hledger huser (Succeeds.bind (succeeds_claim hledger hpending) ?_)
  rintro claimed empty ⟨hclaimed, hempty⟩
  rw [← hclaimed] at hfits
  refine Succeeds.bind (succeeds_creditX hempty hfits) ?_
  intro _ received hreceived
  rw [hclaimed] at hreceived
  exact succeeds_submitX hreceived hsettled

/-- **An import to the platform lane**, likewise. -/
theorem turns_pImport (hsettled : h.outlook.Settled)
    (huser : user.name ∈ h.registry.users) (hpending : h.fee < h.pending recipient)
    (hfits : h.p recipient + (h.pending recipient - h.fee) < 2 ^ 64) :
    Turns (pImport user recipient) h fun _ left =>
      left = { h with
        p := Function.update h.p recipient (h.p recipient + (h.pending recipient - h.fee))
        pending := Function.update h.pending recipient 0 } := by
  intro ledger hledger
  refine checkUser_bind hledger huser (Succeeds.bind (succeeds_claim hledger hpending) ?_)
  rintro claimed empty ⟨hclaimed, hempty⟩
  rw [← hclaimed] at hfits
  refine Succeeds.bind (succeeds_creditP hempty hfits) ?_
  intro _ received hreceived
  rw [hclaimed] at hreceived
  exact succeeds_submitP hreceived hsettled

/-! ## Refusals -/

section Refusals

variable {α β : Type} {ledger left : Ledger} {action : LedgerAction α} {next : α → LedgerAction β}

/-- What comes after a part that has a result. -/
theorem run_bind_ok {value : α} (haction : action.run.run ledger = (.ok value, left)) :
    (action >>= next).run.run ledger = (next value).run.run left := by
  rw [ExceptT.run_bind, StateT.run_bind, haction]
  rfl

/-- A part that fails ends the call. -/
theorem run_bind_error {cause : Failure ApiError}
    (haction : action.run.run ledger = (.error cause, left)) :
    (action >>= next).run.run ledger = (.error cause, left) := by
  rw [ExceptT.run_bind, StateT.run_bind, haction]
  rfl

/-- **A claim of what the fee eats up is refused**, and what was pending is
gone. -/
theorem run_claim_refused {address method : String} (hledger : ledger.holdings = h)
    (hpending : h.pending address ≤ h.fee) :
    ∃ left, (claim address method).run.run ledger
        = (.error (.error (.rpc method refusalCode ("no funds to import for " ++ address))), left)
      ∧ left.holdings = { h with pending := Function.update h.pending address 0 } := by
  subst hledger
  have hnothing : ¬ ledger.fee < ledger.pending.getD address 0 := by
    rw [UInt64.lt_iff_toNat_lt]
    exact Nat.not_lt.2 hpending
  refine ⟨{ ledger with pending := ledger.pending.erase address }, ?_, ?_⟩
  · show (if _ then _ else _ : LedgerAction Amount).run.run _ = _
    rw [if_neg hnothing]
    rfl
  · exact congrArg (fun pending => { ledger.holdings with pending })
      (Book.getD_erase UInt64.toNat ledger.pending address 0)

/-- **An import of what the fee eats up is refused**, and what was pending is
gone. -/
theorem run_xImport_refused (hledger : ledger.holdings = h)
    (huser : user.name ∈ h.registry.users) (hpending : h.pending recipient ≤ h.fee) :
    ∃ left, (xImport user recipient).run.run ledger
        = (.error (.error (.rpc "avm.importAVAX" refusalCode
            ("no funds to import for " ++ recipient))), left)
      ∧ left.holdings = { h with pending := Function.update h.pending recipient 0 } := by
  have hchecked : (checkUser user "avm.importAVAX").run.run ledger = (.ok (), ledger) := by
    subst hledger
    show (if _ then _ else _ : LedgerAction Unit).run.run ledger = _
    rw [if_pos (show user.name ∈ ledger.users from huser)]
    rfl
  obtain ⟨left, hclaim, hleft⟩ := run_claim_refused hledger hpending
  exact ⟨left, (run_bind_ok hchecked).trans (run_bind_error hclaim), hleft⟩

end Refusals

/-! ## Stakes -/

/-- The entry of a stake in the list of validators. -/
def validatorOf (request : StakeRequest) : Validator :=
  ⟨request.nodeId, some request.start, some request.finish, some request.stake⟩

/-- **A validator** bonds the stake and is listed. -/
theorem turns_addValidator {request : StakeRequest} (hquiet : h.outlook = .quiet)
    (hsource : (h.registry.pAddresses user.name).head? = some source)
    (hfunds : request.stake.toNat ≤ h.p source) :
    Turns (addValidator user request) h fun _ left =>
      left = { h with
        p := Function.update h.p source (h.p source - request.stake.toNat)
        validators := h.validators ++ [validatorOf request] } := by
  intro ledger hledger
  refine Succeeds.get_bind (pSource_bind hledger hsource ?_)
  refine Succeeds.bind (succeeds_debitP hledger hfunds) ?_
  intro _ paid hpaid
  refine Succeeds.modify_bind ?_
  have hlisted : paid.hidesValidators = false := by
    have houtlook : paid.outlook = .quiet := (congrArg Holdings.outlook hpaid).trans hquiet
    exact congrArg Outlook.hidesValidators houtlook
  rw [if_neg (by rw [hlisted]; exact Bool.false_ne_true)]
  refine succeeds_submitP ?_ (.of_quiet hquiet)
  exact congrArg (fun held : Holdings =>
    { held with validators := held.validators ++ [validatorOf request] }) hpaid

/-- **A delegator** bonds the stake. -/
theorem turns_addDelegator {request : StakeRequest} (hsettled : h.outlook.Settled)
    (hsource : (h.registry.pAddresses user.name).head? = some source)
    (hfunds : request.stake.toNat ≤ h.p source) :
    Turns (addDelegator user request) h fun _ left =>
      left = { h with
        p := Function.update h.p source (h.p source - request.stake.toNat)
        delegations := h.delegations ++ [request] } := by
  intro ledger hledger
  refine Succeeds.get_bind (pSource_bind hledger hsource ?_)
  refine Succeeds.bind (succeeds_debitP hledger hfunds) ?_
  intro _ paid hpaid
  refine Succeeds.modify_bind (succeeds_submitP ?_ hsettled)
  exact congrArg (fun held : Holdings =>
    { held with delegations := held.delegations ++ [request] }) hpaid

/-! ## Where transactions stand -/

/-- The ledger after a question about a transaction. -/
def asked (ledger : Ledger) (tx : TxId) : Ledger :=
  { ledger with polls := ledger.polls.put tx (ledger.polls.getD tx 0 + 1) }

/-- What a change of the ledger that answers comes to. -/
theorem run_modifyGet {α : Type} (f : Ledger → α × Ledger) (ledger : Ledger) :
    (modifyGet f : LedgerAction α).run.run ledger = (.ok (f ledger).1, (f ledger).2) := rfl

/-- **A transaction on the exchange lane is accepted**, and asking for it is
counted and nothing else. -/
theorem run_xStatus {ledger : Ledger} (hsettled : ledger.holdings.outlook.Settled) (tx : TxId) :
    (xStatus tx).run.run ledger = (.ok .accepted, ledger.asked tx) := by
  have hstates : (ledger.asked tx).xStates.get? tx = none := hsettled.xStates tx
  have hcounted : (countPoll tx).run.run ledger = (.ok (), ledger.asked tx) := rfl
  rw [xStatus, ExceptT.run_bind, StateT.run_bind, hcounted]
  show (modifyGet _ : LedgerAction XStatus).run.run (ledger.asked tx) = _
  rw [run_modifyGet, hstates]

/-- **A transaction on the platform lane is committed**, likewise. -/
theorem run_pStatus {ledger : Ledger} (hsettled : ledger.holdings.outlook.Settled) (tx : TxId) :
    (pStatus tx).run.run ledger
      = (.ok (PStatusReply.ofStatus .committed), ledger.asked tx) := by
  have hstates : (ledger.asked tx).pStates.get? tx = none := hsettled.pStates tx
  have hcounted : (countPoll tx).run.run ledger = (.ok (), ledger.asked tx) := rfl
  rw [pStatus, ExceptT.run_bind, StateT.run_bind, hcounted]
  show (modifyGet _ : LedgerAction PStatusReply).run.run (ledger.asked tx) = _
  rw [run_modifyGet, hstates]

end Ledger

end LedgerNet
