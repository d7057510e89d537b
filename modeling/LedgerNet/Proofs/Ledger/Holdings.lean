import LedgerNet.Proofs.Number.Checked
import LedgerNet.Rehearsal.Ledger
import Mathlib.Logic.Function.Basic

/-!
# What a ledger comes to

Two ledgers can differ in how their books are kept, in the history of their
balances and in how many transactions they have seen, and still be the same
to whoever uses them. `Ledger.holdings` is what is left when that is taken
away: the balances as functions on addresses, in natural numbers, and the
users and stakes beside them. What a call does to a ledger is said about
its holdings, so an equation between holdings says at once what changed and
that nothing else did.

A call that succeeds is described by `Succeeds`: it has a result, and the
ledger it leaves behind is as described. The rules follow a call along its
parts.
-/

namespace LedgerNet

namespace Book

variable {ν μ : Type}

/-- What is put under a name is found there, and all else where it was. -/
theorem getD_put (f : ν → μ) (book : Book ν) (name : String) (value default : ν) :
    (fun asked => f ((book.put name value).getD asked default))
      = Function.update (fun asked => f (book.getD asked default)) name (f value) := by
  funext asked
  unfold getD
  by_cases h : asked = name
  · subst h
    rw [get?_put_self, Function.update_self, Option.getD_some]
  · rw [get?_put_of_ne book h, Function.update_of_ne h]

/-- What is erased is as if it had never been there. -/
theorem getD_erase (f : ν → μ) (book : Book ν) (name : String) (default : ν) :
    (fun asked => f ((book.erase name).getD asked default))
      = Function.update (fun asked => f (book.getD asked default)) name (f default) := by
  funext asked
  unfold getD
  by_cases h : asked = name
  · subst h
    rw [get?_erase_self, Function.update_self, Option.getD_none]
  · rw [get?_erase_of_ne book h, Function.update_of_ne h]

end Book

/-- **Who is known to a ledger**: its users with their addresses, and the
account with the first funds. -/
structure Registry where
  fundedKey : String
  fundedAddress : String
  users : List String
  xAddresses : String → List String
  pAddresses : String → List String

/-- **What is in store for transactions**: the states that they will go
through, and whether new validators are left out of the list. -/
structure Outlook where
  xScripts : List (List XStatus)
  pScripts : List (List PStatusReply)
  xStates : String → Option (List XStatus)
  pStates : String → Option (List PStatusReply)
  hidesValidators : Bool

/-- Nothing is in store: transactions settle at once, and validators are
listed. -/
def Outlook.quiet : Outlook := ⟨[], [], fun _ => none, fun _ => none, false⟩

/-- **Transactions settle at once**, whether or not validators are listed: no
states are in store for them. -/
structure Outlook.Settled (outlook : Outlook) : Prop where
  xScripts : outlook.xScripts = []
  pScripts : outlook.pScripts = []
  xStates : ∀ tx, outlook.xStates tx = none
  pStates : ∀ tx, outlook.pStates tx = none

theorem Outlook.Settled.of_quiet {outlook : Outlook} (h : outlook = .quiet) : outlook.Settled := by
  subst h
  exact ⟨rfl, rfl, fun _ => rfl, fun _ => rfl⟩

/-- **What a ledger comes to**: who is known to it, who holds what, and what
is to come. -/
structure Holdings where
  fee : Nat
  registry : Registry
  outlook : Outlook
  x : String → Nat
  p : String → Nat
  c : String → Nat
  pending : String → Nat
  validators : List Validator
  delegations : List StakeRequest

namespace Ledger

/-- The users of a ledger, and their addresses. -/
def registry (ledger : Ledger) : Registry where
  fundedKey := ledger.fundedKey
  fundedAddress := ledger.fundedAddress
  users := ledger.users
  xAddresses user := ledger.xAddresses.getD user []
  pAddresses user := ledger.pAddresses.getD user []

/-- What the transactions of a ledger will go through. -/
def outlook (ledger : Ledger) : Outlook where
  xScripts := ledger.xScripts
  pScripts := ledger.pScripts
  xStates := ledger.xStates.get?
  pStates := ledger.pStates.get?
  hidesValidators := ledger.hidesValidators

/-- The holdings of a ledger. -/
def holdings (ledger : Ledger) : Holdings where
  fee := ledger.fee.toNat
  registry := ledger.registry
  outlook := ledger.outlook
  x address := (ledger.xBalance address).toNat
  p address := (ledger.pBalance address).toNat
  c := ledger.cBalance
  pending address := (ledger.pending.getD address 0).toNat
  validators := ledger.validators
  delegations := ledger.delegations

/-- The registry of a ledger with other addresses of a user on the exchange
lane. -/
theorem registry_putX (ledger : Ledger) (name : String) (addresses : List String) :
    ({ ledger with xAddresses := ledger.xAddresses.put name addresses } : Ledger).registry
      = { ledger.registry with
        xAddresses := Function.update ledger.registry.xAddresses name addresses } :=
  congrArg (fun xAddresses => { ledger.registry with xAddresses })
    (Book.getD_put (fun addresses => addresses) _ _ _ _)

/-- And on the platform lane. -/
theorem registry_putP (ledger : Ledger) (name : String) (addresses : List String) :
    ({ ledger with pAddresses := ledger.pAddresses.put name addresses } : Ledger).registry
      = { ledger.registry with
        pAddresses := Function.update ledger.registry.pAddresses name addresses } :=
  congrArg (fun pAddresses => { ledger.registry with pAddresses })
    (Book.getD_put (fun addresses => addresses) _ _ _ _)

/-! ## Calls that succeed -/

variable {α β : Type} {ledger : Ledger} {action : LedgerAction α} {next : α → LedgerAction β}
  {post : α → Ledger → Prop} {after : β → Ledger → Prop} {value : α}

/-- **A call succeeds**, with a result and a ledger as described. -/
def Succeeds (action : LedgerAction α) (ledger : Ledger) (post : α → Ledger → Prop) : Prop :=
  ∃ value left, action.run.run ledger = (.ok value, left) ∧ post value left

namespace Succeeds

theorem of_pure (h : post value ledger) : Succeeds (pure value) ledger post :=
  ⟨value, ledger, rfl, h⟩

/-- One part after another. -/
theorem bind (h : Succeeds action ledger post)
    (hnext : ∀ value left, post value left → Succeeds (next value) left after) :
    Succeeds (action >>= next) ledger after := by
  obtain ⟨value, left, hrun, hpost⟩ := h
  obtain ⟨result, final, hnextrun, hafter⟩ := hnext value left hpost
  refine ⟨result, final, ?_, hafter⟩
  rw [ExceptT.run_bind, StateT.run_bind, hrun]
  exact hnextrun

/-- What comes after a part whose run is known. -/
theorem bind_run {left : Ledger} (h : action.run.run ledger = (.ok value, left))
    (hnext : Succeeds (next value) left after) : Succeeds (action >>= next) ledger after := by
  obtain ⟨result, final, hrun, hafter⟩ := hnext
  refine ⟨result, final, ?_, hafter⟩
  rw [ExceptT.run_bind, StateT.run_bind, h]
  exact hrun

/-- A look at the ledger, and what comes after it. -/
theorem get_bind {next : Ledger → LedgerAction β} (h : Succeeds (next ledger) ledger after) :
    Succeeds (get >>= next) ledger after :=
  bind_run rfl h

/-- A change of the ledger, and what comes after it. -/
theorem set_bind {changed : Ledger} {next : PUnit → LedgerAction β}
    (h : Succeeds (next ⟨⟩) changed after) : Succeeds (set changed >>= next) ledger after :=
  bind_run rfl h

theorem modify_bind {f : Ledger → Ledger} {next : PUnit → LedgerAction β}
    (h : Succeeds (next ⟨⟩) (f ledger) after) : Succeeds (modify f >>= next) ledger after :=
  bind_run rfl h

theorem modifyGet_bind {f : Ledger → α × Ledger}
    (h : Succeeds (next (f ledger).1) (f ledger).2 after) :
    Succeeds (modifyGet f >>= next) ledger after :=
  bind_run rfl h

/-- A computation that has a value, and what comes after it. -/
theorem checked_bind {result : Checked α} (hresult : result = .ok value)
    (h : Succeeds (next value) ledger after) : Succeeds (checked result >>= next) ledger after := by
  subst hresult
  exact bind_run rfl h

theorem of_set {changed : Ledger} {post : PUnit → Ledger → Prop} (h : post ⟨⟩ changed) :
    Succeeds (set changed) ledger post :=
  ⟨⟨⟩, changed, rfl, h⟩

theorem of_modify {f : Ledger → Ledger} {post : PUnit → Ledger → Prop} (h : post ⟨⟩ (f ledger)) :
    Succeeds (modify f) ledger post :=
  ⟨⟨⟩, f ledger, rfl, h⟩

theorem of_modifyGet {f : Ledger → α × Ledger} (h : post (f ledger).1 (f ledger).2) :
    Succeeds (modifyGet f) ledger post :=
  ⟨(f ledger).1, (f ledger).2, rfl, h⟩

end Succeeds

/-! ## The parts of a call -/

variable {h : Holdings} {address method : String} {credit debit amount : Amount}

/-- **A balance of the exchange lane is moved**, and nothing else. -/
theorem succeeds_adjustX (hledger : ledger.holdings = h)
    (hcredit : h.x address + credit.toNat < 2 ^ 64)
    (hdebit : debit.toNat ≤ h.x address + credit.toNat) :
    Succeeds (adjustX address credit debit method) ledger fun _ left =>
      left.holdings = { h with
        x := Function.update h.x address (h.x address + credit.toNat - debit.toNat) } := by
  subst hledger
  obtain ⟨hsum, hsumn⟩ := Amount.plus_of_lt hcredit
  have hle : debit ≤ ledger.xBalance address + credit := by
    rw [UInt64.le_iff_toNat_le, hsumn]
    exact hdebit
  refine Succeeds.get_bind (Succeeds.checked_bind hsum ?_)
  rw [if_pos hle]
  refine Succeeds.of_set ?_
  -- words wrap around, but neither the sum nor the difference does here
  have hn : (ledger.xBalance address + credit - debit).toNat
      = ledger.holdings.x address + credit.toNat - debit.toNat := by
    rw [UInt64.toNat_sub_of_le _ _ hle, hsumn]
    rfl
  rw [← hn]
  exact congrArg (fun x => { ledger.holdings with x }) (Book.getD_put UInt64.toNat _ _ _ _)

/-- **A balance of the platform lane is moved**, and nothing else. -/
theorem succeeds_adjustP (hledger : ledger.holdings = h)
    (hcredit : h.p address + credit.toNat < 2 ^ 64)
    (hdebit : debit.toNat ≤ h.p address + credit.toNat) :
    Succeeds (adjustP address credit debit method) ledger fun _ left =>
      left.holdings = { h with
        p := Function.update h.p address (h.p address + credit.toNat - debit.toNat) } := by
  subst hledger
  obtain ⟨hsum, hsumn⟩ := Amount.plus_of_lt hcredit
  have hle : debit ≤ ledger.pBalance address + credit := by
    rw [UInt64.le_iff_toNat_le, hsumn]
    exact hdebit
  refine Succeeds.get_bind (Succeeds.checked_bind hsum ?_)
  rw [if_pos hle]
  refine Succeeds.of_set ?_
  have hn : (ledger.pBalance address + credit - debit).toNat
      = ledger.holdings.p address + credit.toNat - debit.toNat := by
    rw [UInt64.toNat_sub_of_le _ _ hle, hsumn]
    rfl
  rw [← hn]
  exact congrArg (fun p => { ledger.holdings with p }) (Book.getD_put UInt64.toNat _ _ _ _)

/-- A balance of the exchange lane grows. -/
theorem succeeds_creditX (hledger : ledger.holdings = h)
    (hfits : h.x address + amount.toNat < 2 ^ 64) :
    Succeeds (adjustX address amount 0 method) ledger fun _ left =>
      left.holdings = { h with x := Function.update h.x address (h.x address + amount.toNat) } :=
  succeeds_adjustX hledger hfits (Nat.zero_le _)

/-- A balance of the exchange lane shrinks. -/
theorem succeeds_debitX (hledger : ledger.holdings = h) (hfunds : amount.toNat ≤ h.x address) :
    Succeeds (adjustX address 0 amount method) ledger fun _ left =>
      left.holdings = { h with x := Function.update h.x address (h.x address - amount.toNat) } := by
  subst hledger
  exact succeeds_adjustX rfl (UInt64.toNat_lt _) hfunds

/-- A balance of the platform lane grows. -/
theorem succeeds_creditP (hledger : ledger.holdings = h)
    (hfits : h.p address + amount.toNat < 2 ^ 64) :
    Succeeds (adjustP address amount 0 method) ledger fun _ left =>
      left.holdings = { h with p := Function.update h.p address (h.p address + amount.toNat) } :=
  succeeds_adjustP hledger hfits (Nat.zero_le _)

/-- A balance of the platform lane shrinks. -/
theorem succeeds_debitP (hledger : ledger.holdings = h) (hfunds : amount.toNat ≤ h.p address) :
    Succeeds (adjustP address 0 amount method) ledger fun _ left =>
      left.holdings = { h with p := Function.update h.p address (h.p address - amount.toNat) } := by
  subst hledger
  exact succeeds_adjustP rfl (UInt64.toNat_lt _) hfunds

/-- **What is pending is claimed**, less the fee. -/
theorem succeeds_claim (hledger : ledger.holdings = h) (hpending : h.fee < h.pending address) :
    Succeeds (claim address method) ledger fun claimed left =>
      claimed.toNat = h.pending address - h.fee
        ∧ left.holdings = { h with pending := Function.update h.pending address 0 } := by
  subst hledger
  have hlt : ledger.fee < ledger.pending.getD address 0 := UInt64.lt_iff_toNat_lt.2 hpending
  have hchanged : ({ ledger with pending := ledger.pending.erase address } : Ledger).holdings
      = { ledger.holdings with pending := Function.update ledger.holdings.pending address 0 } :=
    congrArg (fun pending => { ledger.holdings with pending })
      (Book.getD_erase UInt64.toNat ledger.pending address 0)
  refine Succeeds.get_bind (Succeeds.set_bind ?_)
  rw [if_pos hlt]
  refine Succeeds.of_pure ⟨?_, hchanged⟩
  exact (UInt64.toNat_sub_of_le _ _ (UInt64.le_iff_toNat_le.2 (Nat.le_of_lt hpending)))

/-- **An amount is made pending.** -/
theorem succeeds_park (hledger : ledger.holdings = h)
    (hfits : h.pending address + amount.toNat < 2 ^ 64) :
    Succeeds (park address amount) ledger fun _ left =>
      left.holdings = { h with
        pending := Function.update h.pending address (h.pending address + amount.toNat) } := by
  subst hledger
  obtain ⟨hsum, hsumn⟩ := Amount.plus_of_lt hfits
  refine Succeeds.get_bind (Succeeds.checked_bind hsum (Succeeds.of_set ?_))
  rw [show ledger.holdings.pending address + amount.toNat
    = (ledger.pending.getD address 0 + amount).toNat from hsumn.symm]
  exact congrArg (fun pending => { ledger.holdings with pending })
    (Book.getD_put UInt64.toNat _ _ _ _)

/-- A transaction that nothing is in store for changes no holdings. -/
theorem succeeds_submitX (hledger : ledger.holdings = h) (hsettled : h.outlook.Settled) :
    Succeeds submitX ledger fun _ left => left.holdings = h := by
  subst hledger
  have hscripts : ledger.xScripts = [] := hsettled.xScripts
  refine Succeeds.modifyGet_bind (Succeeds.modify_bind (Succeeds.of_pure ?_))
  split
  · rename_i hnext
    exact absurd (hscripts.symm.trans hnext) (by simp)
  · rfl

/-- A transaction that nothing is in store for changes no holdings. -/
theorem succeeds_submitP (hledger : ledger.holdings = h) (hsettled : h.outlook.Settled) :
    Succeeds submitP ledger fun _ left => left.holdings = h := by
  subst hledger
  have hscripts : ledger.pScripts = [] := hsettled.pScripts
  refine Succeeds.modifyGet_bind (Succeeds.modify_bind (Succeeds.of_pure ?_))
  split
  · rename_i hnext
    exact absurd (hscripts.symm.trans hnext) (by simp)
  · rfl

/-- A user that is known. -/
theorem checkUser_bind {user : User} {next : Unit → LedgerAction β}
    (hledger : ledger.holdings = h) (huser : user.name ∈ h.registry.users)
    (hnext : Succeeds (next ()) ledger after) :
    Succeeds (checkUser user method >>= next) ledger after := by
  subst hledger
  have hchecked : Succeeds (checkUser user method) ledger fun _ left => left = ledger := by
    refine Succeeds.get_bind ?_
    rw [if_pos (show user.name ∈ ledger.users from huser)]
    exact Succeeds.of_pure rfl
  refine Succeeds.bind hchecked ?_
  rintro _ left rfl
  exact hnext

/-- The first address of a user who has one. -/
theorem run_firstAddress {book : Book (List String)} {user : User}
    (hbook : (book.getD user.name []).head? = some address) :
    (firstAddress book user method).run.run ledger = (.ok address, ledger) := by
  unfold firstAddress
  rw [hbook]
  rfl

/-- A user with an address on the exchange lane. -/
theorem xSource_bind {user : User} {next : String → LedgerAction β} (hledger : ledger.holdings = h)
    (hsource : (h.registry.xAddresses user.name).head? = some address)
    (hnext : Succeeds (next address) ledger after) :
    Succeeds (firstAddress ledger.xAddresses user method >>= next) ledger after := by
  subst hledger
  exact Succeeds.bind_run (run_firstAddress hsource) hnext

/-- A user with an address on the platform lane. -/
theorem pSource_bind {user : User} {next : String → LedgerAction β} (hledger : ledger.holdings = h)
    (hsource : (h.registry.pAddresses user.name).head? = some address)
    (hnext : Succeeds (next address) ledger after) :
    Succeeds (firstAddress ledger.pAddresses user method >>= next) ledger after := by
  subst hledger
  exact Succeeds.bind_run (run_firstAddress hsource) hnext

/-- An amount and a fee that can be paid are an amount together. -/
theorem plus_fee_of_le (hledger : ledger.holdings = h) {held : Amount}
    (hfunds : amount.toNat + h.fee ≤ held.toNat) :
    Amount.plus amount ledger.fee = .ok (amount + ledger.fee)
      ∧ (amount + ledger.fee).toNat = amount.toNat + h.fee := by
  subst hledger
  have hfits : amount.toNat + ledger.fee.toNat < 2 ^ 64 :=
    Nat.lt_of_le_of_lt hfunds (UInt64.toNat_lt held)
  exact Amount.plus_of_lt hfits

/-- **Paying an amount and a fee** on the exchange lane. -/
theorem payX_bind {next : Unit → LedgerAction β} (hledger : ledger.holdings = h)
    (hfunds : amount.toNat + h.fee ≤ h.x address)
    (hnext : ∀ left : Ledger, left.holdings = { h with
      x := Function.update h.x address (h.x address - (amount.toNat + h.fee)) } →
      Succeeds (next ()) left after) :
    Succeeds (checked (Amount.plus amount ledger.fee) >>= fun cost =>
      adjustX address 0 cost method >>= next) ledger after := by
  have hheld : amount.toNat + h.fee ≤ (ledger.xBalance address).toNat := by
    subst hledger
    exact hfunds
  obtain ⟨hcost, hcostn⟩ := plus_fee_of_le hledger hheld
  have hpaid : (amount + ledger.fee).toNat ≤ h.x address := hcostn.symm ▸ hfunds
  refine Succeeds.checked_bind hcost (Succeeds.bind (succeeds_debitX hledger hpaid) ?_)
  intro _ left hleft
  rw [hcostn] at hleft
  exact hnext left hleft

/-- **Paying an amount and a fee** on the platform lane. -/
theorem payP_bind {next : Unit → LedgerAction β} (hledger : ledger.holdings = h)
    (hfunds : amount.toNat + h.fee ≤ h.p address)
    (hnext : ∀ left : Ledger, left.holdings = { h with
      p := Function.update h.p address (h.p address - (amount.toNat + h.fee)) } →
      Succeeds (next ()) left after) :
    Succeeds (checked (Amount.plus amount ledger.fee) >>= fun cost =>
      adjustP address 0 cost method >>= next) ledger after := by
  have hheld : amount.toNat + h.fee ≤ (ledger.pBalance address).toNat := by
    subst hledger
    exact hfunds
  obtain ⟨hcost, hcostn⟩ := plus_fee_of_le hledger hheld
  have hpaid : (amount + ledger.fee).toNat ≤ h.p address := hcostn.symm ▸ hfunds
  refine Succeeds.checked_bind hcost (Succeeds.bind (succeeds_debitP hledger hpaid) ?_)
  intro _ left hleft
  rw [hcostn] at hleft
  exact hnext left hleft

end Ledger

end LedgerNet
