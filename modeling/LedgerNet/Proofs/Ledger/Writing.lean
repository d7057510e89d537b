import LedgerNet.Proofs.Ledger.Endings
import LedgerNet.Proofs.Ledger.Holdings

/-!
# What a call that succeeds has written

From the success of a call one can tell what the ledger was like before it:
who was known, and that there was enough where money was taken from. `Leaves`
says so, together with what the call did to the holdings and to the histories
of balances (`past`). It is silent about calls that are refused or crash, so
no condition has to be met beforehand.

Every balance that a call moves on the exchange lane or on the platform lane
is written down under its address as it is then, and nowhere else. The
histories tell the two lanes apart by the addresses alone.
-/

namespace LedgerNet

namespace Ledger

variable {α β : Type} {ledger left : Ledger} {action : LedgerAction α} {value : α}
  {address method recipient : String} {amount credit debit : Amount} {user : User}

/-- **What a call leaves if it succeeds**: a result and a ledger as described. -/
abbrev Leaves (action : LedgerAction α) (ledger : Ledger) (post : α → Ledger → Prop) : Prop :=
  Ends action ledger post (fun _ => True) True

theorem Leaves.of_run {post : α → Ledger → Prop} (h : Leaves action ledger post)
    (hrun : action.run.run ledger = (.ok value, left)) : post value left := by
  unfold Leaves Ends at h
  rw [hrun] at h
  exact h

/-- The balances that an address has had. -/
def past (ledger : Ledger) (address : String) : List Amount := ledger.history.getD address []

/-! ## Single entries -/

theorem holdings_writeX (ledger : Ledger) (address : String) (balance : Amount) :
    (ledger.writeX address balance).holdings
      = { ledger.holdings with x := Function.update ledger.holdings.x address balance.toNat } :=
  congrArg (fun x => { ledger.holdings with x }) (Book.getD_put UInt64.toNat _ _ _ _)

theorem holdings_writeP (ledger : Ledger) (address : String) (balance : Amount) :
    (ledger.writeP address balance).holdings
      = { ledger.holdings with p := Function.update ledger.holdings.p address balance.toNat } :=
  congrArg (fun p => { ledger.holdings with p }) (Book.getD_put UInt64.toNat _ _ _ _)

/-- A balance that is written down comes after those before it. -/
theorem past_writeX (ledger : Ledger) (address : String) (balance : Amount) :
    (ledger.writeX address balance).past
      = Function.update ledger.past address (ledger.past address ++ [balance]) :=
  Book.getD_put (fun balances => balances) _ _ _ _

theorem past_writeP (ledger : Ledger) (address : String) (balance : Amount) :
    (ledger.writeP address balance).past
      = Function.update ledger.past address (ledger.past address ++ [balance]) :=
  Book.getD_put (fun balances => balances) _ _ _ _

/-- An entry that was moved, whichever book it stands in. -/
theorem leaves_adjust {held : Amount} {put : Amount → Ledger} {reason : String} :
    Leaves (checked (Amount.plus held credit) >>= fun before =>
        if debit ≤ before then set (put (before - debit)) else refuse method reason) ledger
      fun _ left => ∃ balance : Amount,
        balance.toNat + debit.toNat = held.toNat + credit.toNat ∧ left = put balance := by
  refine Ends.checked_bind (fun before hbefore => ?_) fun _ _ => trivial
  have hsum := Amount.plus_eq_ok_iff.1 hbefore
  split
  · rename_i hle
    refine Ends.of_set ⟨before - debit, ?_, rfl⟩
    rw [UInt64.toNat_sub_of_le _ _ hle,
      Nat.sub_add_cancel (UInt64.le_iff_toNat_le.1 hle), hsum]
  · exact Ends.of_refuse trivial

/-- **A balance of the exchange lane that was moved** is written down. -/
theorem leaves_adjustX :
    Leaves (adjustX address credit debit method) ledger fun _ left => ∃ balance : Amount,
      balance.toNat + debit.toNat = ledger.holdings.x address + credit.toNat
        ∧ left = ledger.writeX address balance := by
  rw [adjustX_eq]
  exact Ends.get_bind leaves_adjust

/-- **A balance of the platform lane that was moved** is written down. -/
theorem leaves_adjustP :
    Leaves (adjustP address credit debit method) ledger fun _ left => ∃ balance : Amount,
      balance.toNat + debit.toNat = ledger.holdings.p address + credit.toNat
        ∧ left = ledger.writeP address balance := by
  rw [adjustP_eq]
  exact Ends.get_bind leaves_adjust

/-- What was claimed is not pending any more. -/
theorem leaves_claim :
    Leaves (claim address method) ledger fun claimed left =>
      0 < claimed.toNat
        ∧ claimed.toNat + ledger.holdings.fee = ledger.holdings.pending address
        ∧ left.holdings = { ledger.holdings with
          pending := Function.update ledger.holdings.pending address 0 }
        ∧ left.past = ledger.past := by
  refine Ends.get_bind (Ends.set_bind ?_)
  split
  · rename_i hlt
    have hltn := UInt64.lt_iff_toNat_lt.1 hlt
    have hclaimed := UInt64.toNat_sub_of_le _ _ (UInt64.le_of_lt hlt)
    have hfee : ledger.holdings.fee = ledger.fee.toNat := rfl
    have hpending : ledger.holdings.pending address = (ledger.pending.getD address 0).toNat := rfl
    refine Ends.of_pure ⟨by omega, by omega, ?_, rfl⟩
    exact congrArg (fun pending => { ledger.holdings with pending })
      (Book.getD_erase UInt64.toNat ledger.pending address 0)
  · exact Ends.of_refuse trivial

/-- What was parked is pending. -/
theorem leaves_park :
    Leaves (park address amount) ledger fun _ left =>
      left.holdings = { ledger.holdings with
          pending := Function.update ledger.holdings.pending address
            (ledger.holdings.pending address + amount.toNat) }
        ∧ left.past = ledger.past := by
  refine Ends.get_bind (Ends.checked_bind (fun sum hsum => ?_) fun _ _ => trivial)
  refine Ends.of_set ⟨?_, rfl⟩
  rw [show ledger.holdings.pending address + amount.toNat = sum.toNat from
    (Amount.plus_eq_ok_iff.1 hsum).symm]
  exact congrArg (fun pending => { ledger.holdings with pending })
    (Book.getD_put UInt64.toNat _ _ _ _)

/-- A transaction has an id, which leaves no trace. -/
theorem leaves_nextTx :
    Leaves nextTx ledger fun _ left => left.holdings = ledger.holdings ∧ left.past = ledger.past
      ∧ left.xScripts = ledger.xScripts ∧ left.pScripts = ledger.pScripts :=
  Ends.of_modifyGet ⟨rfl, rfl, rfl, rfl⟩

/-- A transaction that nothing is in store for is handed in without a trace. -/
theorem leaves_submitX (hsettled : ledger.holdings.outlook.Settled) :
    Leaves submitX ledger fun _ left =>
      left.holdings = ledger.holdings ∧ left.past = ledger.past := by
  refine Ends.bind leaves_nextTx ?_
  rintro tx handedIn ⟨hholdings, hpast, hscripts, -⟩
  refine Ends.modify_bind (Ends.of_pure ?_)
  rw [hscripts, show ledger.xScripts = [] from hsettled.xScripts]
  exact ⟨hholdings, hpast⟩

/-- A transaction that nothing is in store for is handed in without a trace. -/
theorem leaves_submitP (hsettled : ledger.holdings.outlook.Settled) :
    Leaves submitP ledger fun _ left =>
      left.holdings = ledger.holdings ∧ left.past = ledger.past := by
  refine Ends.bind leaves_nextTx ?_
  rintro tx handedIn ⟨hholdings, hpast, -, hscripts⟩
  refine Ends.modify_bind (Ends.of_pure ?_)
  rw [hscripts, show ledger.pScripts = [] from hsettled.pScripts]
  exact ⟨hholdings, hpast⟩

/-! ## Calls -/

/-- An export was paid for on its lane, and is pending. -/
theorem leaves_export {book : Book (List String)} {pay : String → Amount → LedgerAction Unit}
    {submit : LedgerAction TxId} {paid : String → Amount → Ledger} {held : String → Nat}
    (hpay : ∀ source cost, Leaves (pay source cost) ledger fun _ left => ∃ balance : Amount,
      balance.toNat + cost.toNat = held source ∧ left = paid source balance)
    (hsubmit : ∀ source balance (parked : Ledger),
      parked.holdings.outlook = (paid source balance).holdings.outlook →
      Leaves submit parked fun _ left =>
        left.holdings = parked.holdings ∧ left.past = parked.past) :
    Leaves (firstAddress book user method >>= fun source =>
        checked (Amount.plus amount ledger.fee) >>= fun cost => pay source cost >>= fun _ =>
          park recipient amount >>= fun _ => submit) ledger
      fun _ left => ∃ source, ∃ balance : Amount,
        (book.getD user.name []).head? = some source
          ∧ balance.toNat + (amount.toNat + ledger.holdings.fee) = held source
          ∧ left.holdings = { (paid source balance).holdings with
            pending := Function.update (paid source balance).holdings.pending recipient
              ((paid source balance).holdings.pending recipient + amount.toNat) }
          ∧ left.past = (paid source balance).past := by
  refine Ends.bind ((ends_firstAddress ledger book user _).mono
    (fun _ _ h => h) (fun _ _ => trivial) fun _ => trivial) ?_
  rintro source ledger ⟨rfl, hsource⟩
  refine Ends.checked_bind (fun cost hcost => ?_) fun _ _ => trivial
  have hcostn : cost.toNat = amount.toNat + ledger.holdings.fee := Amount.plus_eq_ok_iff.1 hcost
  refine Ends.bind (hpay source cost) ?_
  rintro _ _ ⟨balance, hbalance, rfl⟩
  refine Ends.bind leaves_park ?_
  rintro _ parked ⟨hparked, hpast⟩
  refine (hsubmit source balance parked (by rw [hparked])).mono ?_ (fun _ h => h) id
  rintro _ left ⟨hholdings, hleft⟩
  exact ⟨source, balance, hsource, hcostn ▸ hbalance, hholdings.trans hparked, hleft.trans hpast⟩

/-- **An export to the platform lane** was paid for, and is pending. -/
theorem leaves_xExport (hsettled : ledger.holdings.outlook.Settled) :
    Leaves (xExport user amount recipient) ledger fun _ left => ∃ source, ∃ balance : Amount,
      (ledger.holdings.registry.xAddresses user.name).head? = some source
        ∧ balance.toNat + (amount.toNat + ledger.holdings.fee) = ledger.holdings.x source
        ∧ left.holdings = { ledger.holdings with
          x := Function.update ledger.holdings.x source balance.toNat
          pending := Function.update ledger.holdings.pending recipient
            (ledger.holdings.pending recipient + amount.toNat) }
        ∧ left.past = Function.update ledger.past source (ledger.past source ++ [balance]) := by
  have hpay : ∀ source cost, Leaves (adjustX source 0 cost "avm.exportAVAX") ledger
      fun _ left => ∃ balance : Amount, balance.toNat + cost.toNat = ledger.holdings.x source
        ∧ left = ledger.writeX source balance := fun _ _ => leaves_adjustX
  refine Ends.get_bind ((leaves_export hpay fun _ _ _ houtlook =>
    leaves_submitX (houtlook ▸ hsettled)).mono ?_ (fun _ h => h) id)
  rintro _ left ⟨source, balance, hsource, hpaid, hholdings, hpast⟩
  rw [holdings_writeX] at hholdings
  rw [past_writeX] at hpast
  exact ⟨source, balance, hsource, hpaid, hholdings, hpast⟩

/-- **An export to the exchange lane**, likewise. -/
theorem leaves_pExport (hsettled : ledger.holdings.outlook.Settled) :
    Leaves (pExport user recipient amount) ledger fun _ left => ∃ source, ∃ balance : Amount,
      (ledger.holdings.registry.pAddresses user.name).head? = some source
        ∧ balance.toNat + (amount.toNat + ledger.holdings.fee) = ledger.holdings.p source
        ∧ left.holdings = { ledger.holdings with
          p := Function.update ledger.holdings.p source balance.toNat
          pending := Function.update ledger.holdings.pending recipient
            (ledger.holdings.pending recipient + amount.toNat) } := by
  have hpay : ∀ source cost, Leaves (adjustP source 0 cost "platform.exportAVAX") ledger
      fun _ left => ∃ balance : Amount, balance.toNat + cost.toNat = ledger.holdings.p source
        ∧ left = ledger.writeP source balance := fun _ _ => leaves_adjustP
  refine Ends.get_bind ((leaves_export hpay fun _ _ _ houtlook =>
    leaves_submitP (houtlook ▸ hsettled)).mono ?_ (fun _ h => h) id)
  rintro _ left ⟨source, balance, hsource, hpaid, hholdings, -⟩
  rw [holdings_writeP] at hholdings
  exact ⟨source, balance, hsource, hpaid, hholdings⟩

/-- An import has credited what was pending, less a fee, to a ledger on which
nothing is pending there any more. -/
theorem leaves_import {credit : Amount → LedgerAction Unit} {submit : LedgerAction TxId}
    {paid : Ledger → Amount → Ledger} {held : Ledger → Nat}
    (hcredit : ∀ claimed (empty : Ledger), Leaves (credit claimed) empty fun _ left =>
      ∃ balance : Amount, balance.toNat = held empty + claimed.toNat ∧ left = paid empty balance)
    (hsubmit : ∀ balance (empty : Ledger), empty.holdings.outlook = ledger.holdings.outlook →
      Leaves submit (paid empty balance) fun _ left =>
        left.holdings = (paid empty balance).holdings ∧ left.past = (paid empty balance).past) :
    Leaves (checkUser user method >>= fun _ => claim recipient method >>= fun claimed =>
        credit claimed >>= fun _ => submit) ledger
      fun _ left => ∃ empty : Ledger, ∃ balance : Amount,
        empty.holdings = { ledger.holdings with
            pending := Function.update ledger.holdings.pending recipient 0 }
          ∧ empty.past = ledger.past
          ∧ ledger.holdings.fee < ledger.holdings.pending recipient
          ∧ balance.toNat + ledger.holdings.fee = held empty + ledger.holdings.pending recipient
          ∧ left.holdings = (paid empty balance).holdings
          ∧ left.past = (paid empty balance).past := by
  refine Ends.bind ((ends_checkUser ledger user _).mono
    (fun _ _ h => h) (fun _ _ => trivial) fun _ => trivial) ?_
  rintro _ ledger ⟨rfl, -⟩
  refine Ends.bind leaves_claim ?_
  rintro claimed empty ⟨hpos, hclaimed, hempty, hpast⟩
  refine Ends.bind (hcredit claimed empty) ?_
  rintro _ _ ⟨balance, hbalance, rfl⟩
  refine (hsubmit balance empty (by rw [hempty])).mono ?_ (fun _ h => h) id
  rintro _ left ⟨hholdings, hleft⟩
  exact ⟨empty, balance, hempty, hpast, by omega, by omega, hholdings, hleft⟩

/-- **An import to the platform lane** has brought what was pending, less a
fee. -/
theorem leaves_pImport (hsettled : ledger.holdings.outlook.Settled) :
    Leaves (pImport user recipient) ledger fun _ left => ∃ balance : Amount,
      ledger.holdings.fee < ledger.holdings.pending recipient
        ∧ balance.toNat + ledger.holdings.fee
          = ledger.holdings.p recipient + ledger.holdings.pending recipient
        ∧ left.holdings = { ledger.holdings with
          p := Function.update ledger.holdings.p recipient balance.toNat
          pending := Function.update ledger.holdings.pending recipient 0 }
        ∧ left.past
          = Function.update ledger.past recipient (ledger.past recipient ++ [balance]) := by
  refine (leaves_import (fun _ _ => leaves_adjustP) fun _ _ houtlook =>
    leaves_submitP ?_).mono ?_ (fun _ h => h) id
  · rw [holdings_writeP]
    exact houtlook ▸ hsettled
  rintro _ left ⟨empty, balance, hempty, hpast, hpending, hbalance, hholdings, hleft⟩
  rw [holdings_writeP, hempty] at hholdings
  rw [past_writeP, hpast] at hleft
  rw [hempty] at hbalance
  exact ⟨balance, hpending, hbalance, hholdings, hleft⟩

/-- **An import to the exchange lane**, likewise. -/
theorem leaves_xImport (hsettled : ledger.holdings.outlook.Settled) :
    Leaves (xImport user recipient) ledger fun _ left => ∃ balance : Amount,
      ledger.holdings.fee < ledger.holdings.pending recipient
        ∧ balance.toNat + ledger.holdings.fee
          = ledger.holdings.x recipient + ledger.holdings.pending recipient
        ∧ left.holdings = { ledger.holdings with
          x := Function.update ledger.holdings.x recipient balance.toNat
          pending := Function.update ledger.holdings.pending recipient 0 } := by
  refine (leaves_import (fun _ _ => leaves_adjustX) fun _ _ houtlook =>
    leaves_submitX ?_).mono ?_ (fun _ h => h) id
  · rw [holdings_writeX]
    exact houtlook ▸ hsettled
  rintro _ left ⟨empty, balance, hempty, -, hpending, hbalance, hholdings, -⟩
  rw [holdings_writeX, hempty] at hholdings
  rw [hempty] at hbalance
  exact ⟨balance, hpending, hbalance, hholdings⟩

/-- **What a stake that was bonded has changed**: a balance of the platform
lane, which is written down, and the lists of stakes. -/
def Bonded (ledger : Ledger) (user : User) (stake : Amount) (left : Ledger) : Prop :=
  ∃ source, ∃ balance : Amount,
    (ledger.holdings.registry.pAddresses user.name).head? = some source
      ∧ balance.toNat + stake.toNat = ledger.holdings.p source
      ∧ left.holdings = { ledger.holdings with
        p := Function.update ledger.holdings.p source balance.toNat
        validators := left.validators
        delegations := left.delegations }
      ∧ left.past = Function.update ledger.past source (ledger.past source ++ [balance])

/-- A stake is bonded, whatever is written down of it beside the balance. -/
theorem leaves_bond {write : Ledger → Ledger} (hsettled : ledger.holdings.outlook.Settled)
    (hwrite : ∀ ledger : Ledger, (write ledger).past = ledger.past
      ∧ (write ledger).holdings = { ledger.holdings with
        validators := (write ledger).validators, delegations := (write ledger).delegations }) :
    Leaves (firstAddress ledger.pAddresses user method >>= fun source =>
        adjustP source 0 amount method >>= fun _ => modify write >>= fun _ => submitP) ledger
      fun _ left => ledger.Bonded user amount left := by
  refine Ends.bind ((ends_firstAddress ledger ledger.pAddresses user _).mono
    (fun _ _ h => h) (fun _ _ => trivial) fun _ => trivial) ?_
  rintro source ledger ⟨rfl, hsource⟩
  refine Ends.bind leaves_adjustP ?_
  rintro _ _ ⟨balance, hbalance, rfl⟩
  obtain ⟨hpast, hwritten⟩ := hwrite (ledger.writeP source balance)
  rw [past_writeP] at hpast
  rw [holdings_writeP] at hwritten
  refine Ends.modify_bind ((leaves_submitP (by rw [hwritten]; exact hsettled)).mono ?_
    (fun _ h => h) id)
  rintro _ left ⟨hholdings, hleft⟩
  refine ⟨source, balance, hsource, hbalance, ?_, hleft.trans hpast⟩
  rw [show left.validators = _ from congrArg Holdings.validators hholdings,
    show left.delegations = _ from congrArg Holdings.delegations hholdings]
  exact hholdings.trans hwritten

theorem leaves_addValidator {request : StakeRequest}
    (hsettled : ledger.holdings.outlook.Settled) :
    Leaves (addValidator user request) ledger fun _ left =>
      ledger.Bonded user request.stake left := by
  refine Ends.get_bind (leaves_bond hsettled fun ledger => ?_)
  split <;> exact ⟨rfl, rfl⟩

theorem leaves_addDelegator {request : StakeRequest}
    (hsettled : ledger.holdings.outlook.Settled) :
    Leaves (addDelegator user request) ledger fun _ left =>
      ledger.Bonded user request.stake left :=
  Ends.get_bind (leaves_bond hsettled fun _ => ⟨rfl, rfl⟩)

end Ledger

end LedgerNet
