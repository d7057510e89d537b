import LedgerNet.Proofs.Ledger.Worth
import Mathlib.Algebra.GroupWithZero.Nat

/-!
# How calls end

A call to a ledger ends in one of three ways: it has a result, it is refused,
or it crashes. `Ends` describes all three, with the ledger that is left in the
first two. It is proved along the parts of a call, and each part has one
description that says everything about it.

The calls that move money have one description as well. If a call succeeds, it
has spent its fee or its stake and nothing else. If it is refused, nothing has
changed, except where it is an import that has claimed by then: what was
pending is gone, and it was no more than the fee (`Forfeits`). And it can only
crash on a ledger that is worth more than an amount can say, or if the caller
asks for so much that the amount and the fee are no amount together.
-/

namespace LedgerNet

/-! ## Sums of amounts -/

namespace Amount

/-- A sum that does not fit is too large. -/
theorem plus_overflows {a b : Amount} {cause : Overflow} (h : plus a b = .error cause) :
    2 ^ 64 ≤ a.toNat + b.toNat := by
  unfold plus at h
  split at h
  · cases h
  · omega

/-- **A sum of many** is their sum, or that is too large. -/
theorem foldlM_plus (amounts : List Amount) (start : Amount) :
    match amounts.foldlM plus start with
    | .ok total => total.toNat = start.toNat + (amounts.map UInt64.toNat).sum
    | .error _ => 2 ^ 64 ≤ start.toNat + (amounts.map UInt64.toNat).sum := by
  induction amounts generalizing start with
  | nil => rfl
  | cons amount rest ih =>
    rw [List.foldlM_cons, List.map_cons, List.sum_cons]
    cases hplus : plus start amount with
    | error cause =>
      have hlarge := plus_overflows hplus
      exact Nat.le_trans hlarge (by omega)
    | ok sum =>
      have hsum := plus_eq_ok_iff.1 hplus
      rw [← Nat.add_assoc, ← hsum]
      exact ih sum

end Amount

namespace Ledger

variable {α β : Type} {ledger left : Ledger} {action : LedgerAction α}
  {next : α → LedgerAction β} {value : α} {ok ok' : α → Ledger → Prop}
  {after : β → Ledger → Prop} {refused refused' : Ledger → Prop} {crashed crashed' : Prop}

/-! ## The three endings -/

/-- **How a call ends**: with a result and a ledger as described, refused with
a ledger as described, or with a crash if that is possible at all. -/
def Ends (action : LedgerAction α) (ledger : Ledger) (ok : α → Ledger → Prop)
    (refused : Ledger → Prop) (crashed : Prop) : Prop :=
  match action.run.run ledger with
  | (.ok value, left) => ok value left
  | (.error (.error _), left) => refused left
  | (.error (.crash _), _) => crashed

namespace Ends

theorem of_pure (h : ok value ledger) : Ends (pure value) ledger ok refused crashed := h

theorem of_refuse {method reason : String} (h : refused ledger) :
    Ends (refuse method reason) ledger ok refused crashed := h

theorem of_set {changed : Ledger} {ok : PUnit → Ledger → Prop} (h : ok ⟨⟩ changed) :
    Ends (set changed) ledger ok refused crashed := h

theorem of_modify {f : Ledger → Ledger} {ok : PUnit → Ledger → Prop} (h : ok ⟨⟩ (f ledger)) :
    Ends (modify f) ledger ok refused crashed := h

theorem of_modifyGet {f : Ledger → α × Ledger} (h : ok (f ledger).1 (f ledger).2) :
    Ends (modifyGet f) ledger ok refused crashed := h

/-- A description may say less. -/
theorem mono (h : Ends action ledger ok refused crashed)
    (hok : ∀ value left, ok value left → ok' value left)
    (hrefused : ∀ left, refused left → refused' left) (hcrashed : crashed → crashed') :
    Ends action ledger ok' refused' crashed' := by
  unfold Ends at *
  split <;> rename_i hrun <;> rw [hrun] at h
  · exact hok _ _ h
  · exact hrefused _ h
  · exact hcrashed h

/-- **One part after another.** Whatever ends the first one ends both. -/
theorem bind (h : Ends action ledger ok refused crashed)
    (hnext : ∀ value left, ok value left → Ends (next value) left after refused crashed) :
    Ends (action >>= next) ledger after refused crashed := by
  unfold Ends at h
  have hrun : (action >>= next).run.run ledger = match action.run.run ledger with
      | (.ok value, left) => (next value).run.run left
      | (.error cause, left) => (.error cause, left) := by
    rw [ExceptT.run_bind, StateT.run_bind]
    rcases action.run.run ledger with ⟨_ | _, _⟩ <;> rfl
  unfold Ends
  rw [hrun]
  rcases haction : action.run.run ledger with ⟨_ | _, left⟩ <;> rw [haction] at h
  · rename_i cause
    cases cause <;> exact h
  · exact hnext _ left h

/-- A look at the ledger, and what comes after it. -/
theorem get_bind {next : Ledger → LedgerAction β}
    (h : Ends (next ledger) ledger after refused crashed) :
    Ends (get >>= next) ledger after refused crashed := h

/-- A change of the ledger, and what comes after it. -/
theorem set_bind {changed : Ledger} {next : PUnit → LedgerAction β}
    (h : Ends (next ⟨⟩) changed after refused crashed) :
    Ends (set changed >>= next) ledger after refused crashed := h

theorem modify_bind {f : Ledger → Ledger} {next : PUnit → LedgerAction β}
    (h : Ends (next ⟨⟩) (f ledger) after refused crashed) :
    Ends (modify f >>= next) ledger after refused crashed := h

/-- A computation on numbers, and what comes after it. -/
theorem checked_bind {result : Checked α}
    (hok : ∀ value, result = .ok value → Ends (next value) ledger after refused crashed)
    (hcrashed : ∀ cause, result = .error cause → crashed) :
    Ends (checked result >>= next) ledger after refused crashed := by
  cases result with
  | ok value => exact hok value rfl
  | error cause => exact hcrashed cause rfl

end Ends

/-! ## The parts of a call -/

variable {address method : String} {amount : Amount}

/-- **Why a credit may crash**: the ledger would be worth more than an amount
can say. -/
def Overflows (ledger : Ledger) (credit : Nat) : Prop :=
  ledger.Tidy → 2 ^ 64 ≤ ledger.worth + credit

section Adjust

variable {held : Amount} {put : Amount → Ledger} {reason : String}

/-- **An entry grows**, whichever book it stands in, and this is never
refused. -/
theorem ends_credit (hput : ∀ balance, Moved ledger held.toNat balance.toNat (put balance))
    (hheld : held.toNat ≤ ledger.worth) (amount : Amount) :
    Ends (checked (Amount.plus held amount) >>= fun before =>
        if 0 ≤ before then set (put (before - 0)) else refuse method reason) ledger
      (fun _ left => Moved ledger 0 amount.toNat left) (fun _ => False)
      (Overflows ledger amount.toNat) := by
  refine Ends.checked_bind (fun before hbefore => ?_) fun cause hcause _ => ?_
  · have hsum := Amount.plus_eq_ok_iff.1 hbefore
    rw [if_pos (UInt64.le_iff_toNat_le.2 (Nat.zero_le _)), UInt64.sub_zero]
    exact Ends.of_set ((hput before).settle (by omega))
  · have hlarge := Amount.plus_overflows hcause
    omega

/-- **An entry shrinks**, whichever book it stands in, if it is large
enough. -/
theorem ends_debit (hput : ∀ balance, Moved ledger held.toNat balance.toNat (put balance))
    (amount : Amount) :
    Ends (checked (Amount.plus held 0) >>= fun before =>
        if amount ≤ before then set (put (before - amount)) else refuse method reason) ledger
      (fun _ left => Moved ledger amount.toNat 0 left) (fun left => left = ledger) False := by
  refine Ends.checked_bind (fun before hbefore => ?_) fun cause hcause => ?_
  · have hsum : before.toNat = held.toNat := Amount.plus_eq_ok_iff.1 hbefore
    split
    · rename_i hle
      refine Ends.of_set ((hput (before - amount)).settle ?_)
      have hnat := UInt64.le_iff_toNat_le.1 hle
      rw [UInt64.toNat_sub_of_le _ _ hle]
      omega
    · exact Ends.of_refuse rfl
  · have hlarge : 2 ^ 64 ≤ held.toNat := Amount.plus_overflows hcause
    exact absurd hlarge (Nat.not_le.2 (UInt64.toNat_lt _))

end Adjust

theorem adjustX_eq (address : String) (credit debit : Amount) (method : String) :
    adjustX address credit debit method = (do
      let ledger ← get
      let before ← checked (Amount.plus (ledger.xBalance address) credit)
      if debit ≤ before then set (ledger.writeX address (before - debit))
      else refuse method ("insufficient funds on " ++ address)) :=
  rfl

theorem adjustP_eq (address : String) (credit debit : Amount) (method : String) :
    adjustP address credit debit method = (do
      let ledger ← get
      let before ← checked (Amount.plus (ledger.pBalance address) credit)
      if debit ≤ before then set (ledger.writeP address (before - debit))
      else refuse method ("insufficient funds on " ++ address)) :=
  rfl

/-- **A balance of the exchange lane grows.** -/
theorem ends_creditX (ledger : Ledger) (address : String) (amount : Amount) (method : String) :
    Ends (adjustX address amount 0 method) ledger
      (fun _ left => Moved ledger 0 amount.toNat left) (fun _ => False)
      (Overflows ledger amount.toNat) := by
  rw [adjustX_eq]
  exact Ends.get_bind
    (ends_credit (Moved.writeX ledger address) (xBalance_le_worth ledger address) amount)

/-- **A balance of the platform lane grows.** -/
theorem ends_creditP (ledger : Ledger) (address : String) (amount : Amount) (method : String) :
    Ends (adjustP address amount 0 method) ledger
      (fun _ left => Moved ledger 0 amount.toNat left) (fun _ => False)
      (Overflows ledger amount.toNat) := by
  rw [adjustP_eq]
  exact Ends.get_bind
    (ends_credit (Moved.writeP ledger address) (pBalance_le_worth ledger address) amount)

/-- **A balance of the exchange lane shrinks.** -/
theorem ends_debitX (ledger : Ledger) (address : String) (amount : Amount) (method : String) :
    Ends (adjustX address 0 amount method) ledger
      (fun _ left => Moved ledger amount.toNat 0 left) (fun left => left = ledger) False := by
  rw [adjustX_eq]
  exact Ends.get_bind (ends_debit (Moved.writeX ledger address) amount)

/-- **A balance of the platform lane shrinks.** -/
theorem ends_debitP (ledger : Ledger) (address : String) (amount : Amount) (method : String) :
    Ends (adjustP address 0 amount method) ledger
      (fun _ left => Moved ledger amount.toNat 0 left) (fun left => left = ledger) False := by
  rw [adjustP_eq]
  exact Ends.get_bind (ends_debit (Moved.writeP ledger address) amount)

/-- **What is pending grows.** -/
theorem ends_park (ledger : Ledger) (address : String) (amount : Amount) :
    Ends (park address amount) ledger (fun _ left => Moved ledger 0 amount.toNat left)
      (fun _ => False) (Overflows ledger amount.toNat) := by
  refine Ends.get_bind (Ends.checked_bind (fun sum hsum => ?_) fun cause hcause _ => ?_)
  · have hsum := Amount.plus_eq_ok_iff.1 hsum
    exact Ends.of_set ((Moved.putPending ledger address sum).settle (by omega))
  · have hlarge := Amount.plus_overflows hcause
    have hheld := pending_le_worth ledger address
    omega

/-- **What a refused claim leaves.** What was pending is gone, and it was no
more than the fee. -/
structure Forfeits (ledger : Ledger) (address : String) (left : Ledger) : Prop where
  pending_le : ledger.pending.getD address 0 ≤ ledger.fee
  left_eq : left = { ledger with pending := ledger.pending.erase address }

/-- **What is pending is claimed**, and a fee is spent on the way. -/
theorem ends_claim (ledger : Ledger) (address method : String) :
    Ends (claim address method) ledger
      (fun claimed left => Moved ledger (claimed.toNat + ledger.fee.toNat) 0 left)
      (fun left => Forfeits ledger address left) False := by
  refine Ends.get_bind (Ends.set_bind ?_)
  split
  · rename_i hlt
    refine Ends.of_pure ((Moved.erasePending ledger address).settle ?_)
    have hnat := UInt64.lt_iff_toNat_lt.1 hlt
    rw [UInt64.toNat_sub_of_le _ _ (UInt64.le_of_lt hlt)]
    omega
  · rename_i hnot
    exact Ends.of_refuse ⟨UInt64.not_lt.1 hnot, rfl⟩

/-- A transaction has an id, which moves no money. -/
theorem ends_nextTx (ledger : Ledger) :
    Ends nextTx ledger (fun _ left => Moved ledger 0 0 left) (fun _ => False) False :=
  Ends.of_modifyGet ((Moved.refl ledger).of_books rfl rfl rfl rfl rfl)

/-- **A transaction is handed in** on the exchange lane, which moves no
money. -/
theorem ends_submitX (ledger : Ledger) :
    Ends submitX ledger (fun _ left => Moved ledger 0 0 left) (fun _ => False) False := by
  refine Ends.bind (ends_nextTx ledger) fun tx handedIn hmoved => Ends.modify_bind (Ends.of_pure ?_)
  split
  · exact hmoved.of_books rfl rfl rfl rfl rfl
  · exact hmoved

/-- **A transaction is handed in** on the platform lane, likewise. -/
theorem ends_submitP (ledger : Ledger) :
    Ends submitP ledger (fun _ left => Moved ledger 0 0 left) (fun _ => False) False := by
  refine Ends.bind (ends_nextTx ledger) fun tx handedIn hmoved => Ends.modify_bind (Ends.of_pure ?_)
  split
  · exact hmoved.of_books rfl rfl rfl rfl rfl
  · exact hmoved

/-- The user is known, or the call is refused. -/
theorem ends_checkUser (ledger : Ledger) (user : User) (method : String) :
    Ends (checkUser user method) ledger (fun _ left => left = ledger ∧ user.name ∈ ledger.users)
      (fun left => left = ledger ∧ user.name ∉ ledger.users) False := by
  refine Ends.get_bind ?_
  split
  · rename_i huser
    exact Ends.of_pure ⟨rfl, huser⟩
  · rename_i huser
    exact Ends.of_refuse ⟨rfl, huser⟩

/-- The user has an address, or the call is refused. -/
theorem ends_firstAddress (ledger : Ledger) (book : Book (List String)) (user : User)
    (method : String) :
    Ends (firstAddress book user method) ledger
      (fun address left => left = ledger ∧ (book.getD user.name []).head? = some address)
      (fun left => left = ledger ∧ (book.getD user.name []).head? = none) False := by
  unfold firstAddress
  split
  · rename_i address haddress
    exact Ends.of_pure ⟨rfl, haddress⟩
  · rename_i hnone
    exact Ends.of_refuse ⟨rfl, hnone⟩

/-! ## Calls that move no money -/

variable {user : User} {recipient : String}

/-- **A new user** moves no money. -/
theorem ends_createUser (ledger : Ledger) (user : User) :
    Ends (createUser user) ledger (fun _ left => Moved ledger 0 0 left)
      (fun left => left = ledger) False := by
  refine Ends.get_bind ?_
  split
  · exact Ends.of_refuse rfl
  · exact Ends.of_modify ((Moved.refl ledger).of_books rfl rfl rfl rfl rfl)

/-- **A known user's change of the registry** moves no money. -/
theorem ends_entry {f : Ledger → α × Ledger} (ledger : Ledger) (user : User) (method : String)
    (h : Moved ledger 0 0 (f ledger).2) :
    Ends (checkUser user method >>= fun _ => modifyGet f) ledger
      (fun _ left => Moved ledger 0 0 left) (fun left => left = ledger) False := by
  refine Ends.bind ((ends_checkUser ledger user method).mono (fun _ _ hknown => hknown)
    (fun _ hrefused => hrefused.1) id) ?_
  rintro _ _ ⟨rfl, -⟩
  exact Ends.of_modifyGet h

theorem ends_xCreateAddress (ledger : Ledger) (user : User) :
    Ends (xCreateAddress user) ledger (fun _ left => Moved ledger 0 0 left)
      (fun left => left = ledger) False :=
  ends_entry ledger user _ ((Moved.refl ledger).of_books rfl rfl rfl rfl rfl)

theorem ends_pCreateAddress (ledger : Ledger) (user : User) :
    Ends (pCreateAddress user) ledger (fun _ left => Moved ledger 0 0 left)
      (fun left => left = ledger) False :=
  ends_entry ledger user _ ((Moved.refl ledger).of_books rfl rfl rfl rfl rfl)

theorem ends_xImportKey (ledger : Ledger) (user : User) (key : String) :
    Ends (xImportKey user key) ledger (fun _ left => Moved ledger 0 0 left)
      (fun left => left = ledger) False := by
  refine Ends.bind ((ends_checkUser ledger user _).mono (fun _ _ hknown => hknown)
    (fun _ hrefused => hrefused.1) id) ?_
  rintro _ _ ⟨rfl, -⟩
  refine Ends.get_bind ?_
  split
  · exact Ends.of_modifyGet ((Moved.refl _).of_books rfl rfl rfl rfl rfl)
  · exact Ends.of_refuse rfl

theorem ends_cImportKey (ledger : Ledger) (user : User) (key : String) :
    Ends (cImportKey user key) ledger (fun _ left => Moved ledger 0 0 left)
      (fun left => left = ledger) False := by
  refine Ends.bind ((ends_checkUser ledger user _).mono (fun _ _ hknown => hknown)
    (fun _ hrefused => hrefused.1) id) ?_
  rintro _ _ ⟨rfl, -⟩
  refine Ends.get_bind ?_
  split
  · exact Ends.of_pure (Moved.refl _)
  · exact Ends.of_refuse rfl

/-- **A question about a transaction** moves no money and is never refused. -/
theorem ends_xStatus (ledger : Ledger) (tx : TxId) :
    Ends (xStatus tx) ledger (fun _ left => Moved ledger 0 0 left) (fun _ => False) False := by
  refine Ends.modify_bind (Ends.of_modifyGet ?_)
  split <;> exact (Moved.refl ledger).of_books rfl rfl rfl rfl rfl

theorem ends_pStatus (ledger : Ledger) (tx : TxId) :
    Ends (pStatus tx) ledger (fun _ left => Moved ledger 0 0 left) (fun _ => False) False := by
  refine Ends.modify_bind (Ends.of_modifyGet ?_)
  split <;> exact (Moved.refl ledger).of_books rfl rfl rfl rfl rfl

/-! ## Calls that move money -/

/-- **Why a call may crash**: the ledger is worth more than an amount can say,
or what is asked for is no amount together with the fee. -/
def Overfull (ledger : Ledger) (asked : Nat) : Prop :=
  ledger.Tidy → 2 ^ 64 ≤ ledger.worth ∨ 2 ^ 64 ≤ asked + ledger.fee.toNat

/-- A call of a user who has an address, or is refused. -/
theorem ends_source_bind {book : Book (List String)} {next : String → LedgerAction β}
    (hnext : ∀ source, Ends (next source) ledger after (fun left => left = ledger) crashed) :
    Ends (firstAddress book user method >>= next) ledger after (fun left => left = ledger)
      crashed := by
  refine Ends.bind ((ends_firstAddress ledger book user method).mono (fun _ _ h => h)
    (fun _ hrefused => hrefused.1) False.elim) ?_
  rintro source _ ⟨rfl, -⟩
  exact hnext source

/-- **What is paid is passed on**, less the fee. This cannot be refused, and
there is room for what has just been taken from the same ledger. -/
theorem ends_passedOn {credit : LedgerAction PUnit} {submit : LedgerAction TxId} {paid : Ledger}
    {given asked : Nat} (hpaid : Moved ledger (given + ledger.fee.toNat) 0 paid)
    (hcredit : Ends credit paid (fun _ left => Moved paid 0 given left) (fun _ => False)
      (Overflows paid given))
    (hsubmit : ∀ ledger, Ends submit ledger (fun _ left => Moved ledger 0 0 left)
      (fun _ => False) False) :
    Ends (credit >>= fun _ => submit) paid (fun _ left => Moved ledger ledger.fee.toNat 0 left)
      refused (Overfull ledger asked) := by
  have hroom : Overflows paid given → Overfull ledger asked := by
    intro hlarge htidy
    have hworth := hpaid.worth_eq htidy
    have hfull := hlarge (hpaid.tidy htidy)
    omega
  refine Ends.bind (hcredit.mono (fun _ _ h => h) (fun _ h => h.elim) hroom) ?_
  intro _ credited hcredited
  refine (hsubmit credited).mono (fun _ left hleft => ?_) (fun _ h => h.elim) False.elim
  exact ((hpaid.trans hcredited).trans hleft).settle (by omega)

/-- **The amount and the fee are paid** from a balance, and what comes after
that. -/
theorem ends_pay_bind {debit : Amount → LedgerAction Unit} {next : Unit → LedgerAction β}
    (hdebit : ∀ cost, Ends (debit cost) ledger (fun _ left => Moved ledger cost.toNat 0 left)
      (fun left => left = ledger) False)
    (hnext : ∀ paid, Moved ledger (amount.toNat + ledger.fee.toNat) 0 paid →
      Ends (next ()) paid after (fun left => left = ledger) (Overfull ledger amount.toNat)) :
    Ends (checked (Amount.plus amount ledger.fee) >>= fun cost => debit cost >>= next) ledger
      after (fun left => left = ledger) (Overfull ledger amount.toNat) := by
  refine Ends.checked_bind (fun cost hcost => ?_) ?_
  · refine Ends.bind ((hdebit cost).mono (fun _ _ h => h) (fun _ h => h) False.elim)
      fun _ paid hpaid => hnext paid ?_
    rw [← Amount.plus_eq_ok_iff.1 hcost]
    exact hpaid
  · exact fun _ hcause _ => Or.inr (Amount.plus_overflows hcause)

/-- **A payment** spends a fee. -/
theorem ends_xSend (ledger : Ledger) (user : User) (amount : Amount) (recipient : String) :
    Ends (xSend user amount recipient) ledger
      (fun _ left => Moved ledger ledger.fee.toNat 0 left) (fun left => left = ledger)
      (Overfull ledger amount.toNat) :=
  Ends.get_bind <| ends_source_bind fun _ =>
    ends_pay_bind (fun cost => ends_debitX _ _ cost _) fun paid hpaid =>
      ends_passedOn hpaid (ends_creditX paid recipient amount _) ends_submitX

/-- **An export to the platform lane** spends a fee. -/
theorem ends_xExport (ledger : Ledger) (user : User) (amount : Amount) (recipient : String) :
    Ends (xExport user amount recipient) ledger
      (fun _ left => Moved ledger ledger.fee.toNat 0 left) (fun left => left = ledger)
      (Overfull ledger amount.toNat) :=
  Ends.get_bind <| ends_source_bind fun _ =>
    ends_pay_bind (fun cost => ends_debitX _ _ cost _) fun paid hpaid =>
      ends_passedOn hpaid (ends_park paid recipient amount) ends_submitX

/-- **An export to the exchange lane** spends a fee. -/
theorem ends_pExport (ledger : Ledger) (user : User) (recipient : String) (amount : Amount) :
    Ends (pExport user recipient amount) ledger
      (fun _ left => Moved ledger ledger.fee.toNat 0 left) (fun left => left = ledger)
      (Overfull ledger amount.toNat) :=
  Ends.get_bind <| ends_source_bind fun _ =>
    ends_pay_bind (fun cost => ends_debitP _ _ cost _) fun paid hpaid =>
      ends_passedOn hpaid (ends_park paid recipient amount) ends_submitP

/-- What some outputs come to. -/
def outputSum (outputs : List SendOutput) : Nat :=
  (outputs.map fun output => output.amount.toNat).sum

/-- **Balances of the exchange lane grow** one after the other. An address may
be among them more than once. -/
theorem ends_credits (ledger : Ledger) (outputs : List SendOutput) (method : String) :
    Ends (outputs.forM fun output => adjustX output.recipient output.amount 0 method) ledger
      (fun _ left => Moved ledger 0 (outputSum outputs) left) (fun _ => False)
      (Overflows ledger (outputSum outputs)) := by
  induction outputs generalizing ledger with
  | nil => exact Ends.of_pure (Moved.refl ledger)
  | cons output rest ih =>
    have hsum : outputSum (output :: rest) = output.amount.toNat + outputSum rest := List.sum_cons
    show Ends (adjustX output.recipient output.amount 0 method >>= fun _ =>
      rest.forM fun output => adjustX output.recipient output.amount 0 method) ledger _ _ _
    refine Ends.bind ((ends_creditX ledger output.recipient output.amount method).mono
      (fun _ _ h => h) (fun _ h => h) fun hlarge htidy => ?_) fun _ credited hcredited => ?_
    · have hfull := hlarge htidy
      omega
    · refine (ih credited).mono (fun _ left hleft => ?_) (fun _ h => h) fun hlarge htidy => ?_
      · exact (hcredited.trans hleft).settle (by omega)
      · have hworth := hcredited.worth_eq htidy
        have hfull := hlarge (hcredited.tidy htidy)
        omega

/-- **A payment to several** spends one fee. -/
theorem ends_xSendMultiple (ledger : Ledger) (user : User) (outputs : List SendOutput) :
    Ends (xSendMultiple user outputs) ledger
      (fun _ left => Moved ledger ledger.fee.toNat 0 left) (fun left => left = ledger)
      (Overfull ledger (outputSum outputs)) := by
  have htotal := Amount.foldlM_plus (outputs.map SendOutput.amount) 0
  rw [List.map_map] at htotal
  refine Ends.get_bind (ends_source_bind fun source => Ends.checked_bind ?_ ?_)
  · intro total hok
    rw [show (outputs.map SendOutput.amount).foldlM Amount.plus 0 = .ok total from hok] at htotal
    have hsum : outputSum outputs = total.toNat := (htotal.trans (Nat.zero_add _)).symm
    rw [hsum]
    refine ends_pay_bind (fun cost => ends_debitX _ _ cost _) fun paid hpaid =>
      ends_passedOn hpaid ?_ ends_submitX
    rw [← hsum]
    exact ends_credits paid outputs _
  · intro cause herror htidy
    rw [show (outputs.map SendOutput.amount).foldlM Amount.plus 0 = .error cause from herror]
      at htotal
    have hlarge : 2 ^ 64 ≤ 0 + outputSum outputs := htotal
    omega

/-- **How a call that claims is refused**: before it claims, and nothing has
changed; or when it does. -/
def ClaimRefused (ledger : Ledger) (claimed : Option String) (left : Ledger) : Prop :=
  match claimed with
  | none => left = ledger
  | some address => Forfeits ledger address left

/-- What an import claims; nothing if the user is not known. -/
def importClaim (ledger : Ledger) (user : User) (recipient : String) : Option String :=
  if user.name ∈ ledger.users then some recipient else none

/-- What an import to the contract lane claims; nothing if the user has no
address. -/
def contractClaim (ledger : Ledger) (user : User) : Option String :=
  (ledger.xAddresses.getD user.name []).head?.map Lane.c.address

/-- A claim of a known user, and what comes after it. -/
theorem ends_importClaim_bind {next : Amount → LedgerAction β}
    (hnext : ∀ claimed empty, Moved ledger (claimed.toNat + ledger.fee.toNat) 0 empty →
      Ends (next claimed) empty after (ClaimRefused ledger (ledger.importClaim user recipient))
        crashed) :
    Ends (checkUser user method >>= fun _ => claim recipient method >>= next) ledger after
      (ClaimRefused ledger (ledger.importClaim user recipient)) crashed := by
  unfold importClaim at *
  refine Ends.bind ((ends_checkUser ledger user method).mono (fun _ _ h => h) ?_ False.elim) ?_
  · rintro _ ⟨rfl, huser⟩
    rw [if_neg huser]
    rfl
  · rintro _ _ ⟨rfl, huser⟩
    rw [if_pos huser] at *
    exact Ends.bind ((ends_claim _ recipient method).mono (fun _ _ h => h) (fun _ h => h)
      False.elim) hnext

/-- **An import to the exchange lane** spends a fee. -/
theorem ends_xImport (ledger : Ledger) (user : User) (recipient : String) :
    Ends (xImport user recipient) ledger (fun _ left => Moved ledger ledger.fee.toNat 0 left)
      (ClaimRefused ledger (ledger.importClaim user recipient)) (Overfull ledger 0) :=
  ends_importClaim_bind fun claimed empty hclaimed =>
    ends_passedOn hclaimed (ends_creditX empty recipient claimed _) ends_submitX

/-- **An import to the platform lane** spends a fee. -/
theorem ends_pImport (ledger : Ledger) (user : User) (recipient : String) :
    Ends (pImport user recipient) ledger (fun _ left => Moved ledger ledger.fee.toNat 0 left)
      (ClaimRefused ledger (ledger.importClaim user recipient)) (Overfull ledger 0) :=
  ends_importClaim_bind fun claimed empty hclaimed =>
    ends_passedOn hclaimed (ends_creditP empty recipient claimed _) ends_submitP

/-- **An import to the contract lane** spends a fee. -/
theorem ends_cImport (ledger : Ledger) (user : User) (recipient : String) :
    Ends (cImport user recipient) ledger (fun _ left => Moved ledger ledger.fee.toNat 0 left)
      (ClaimRefused ledger (ledger.contractClaim user)) (Overfull ledger 0) := by
  unfold contractClaim
  refine Ends.get_bind (Ends.bind ((ends_firstAddress ledger ledger.xAddresses user _).mono
    (fun _ _ h => h) ?_ False.elim) ?_)
  · rintro _ ⟨rfl, hnone⟩
    rw [hnone]
    rfl
  · rintro source _ ⟨rfl, hsource⟩
    rw [hsource]
    refine Ends.bind ((ends_claim _ (Lane.c.address source) _).mono (fun _ _ h => h)
      (fun _ h => h) False.elim) fun claimed empty hclaimed => ?_
    refine ends_passedOn hclaimed (Ends.of_modify ?_) ends_nextTx
    exact (Moved.putC empty recipient _).settle (by omega)

/-- **A stake** is bonded, whatever else is written down of it. -/
theorem ends_bond {write : Ledger → Ledger} {source : String}
    (hwrite : ∀ ledger, Moved ledger 0 0 (write ledger)) :
    Ends (adjustP source 0 amount method >>= fun _ => modify write >>= fun _ => submitP) ledger
      (fun _ left => Moved ledger amount.toNat 0 left) (fun left => left = ledger) crashed := by
  refine Ends.bind ((ends_debitP ledger source amount method).mono (fun _ _ h => h)
    (fun _ h => h) False.elim) fun _ paid hpaid => Ends.modify_bind ?_
  refine (ends_submitP (write paid)).mono (fun _ left hleft => ?_) (fun _ h => h.elim) False.elim
  exact ((hpaid.trans (hwrite paid)).trans hleft).settle (by omega)

/-- **A validator** bonds the stake. -/
theorem ends_addValidator (ledger : Ledger) (user : User) (request : StakeRequest) :
    Ends (addValidator user request) ledger
      (fun _ left => Moved ledger request.stake.toNat 0 left) (fun left => left = ledger)
      False := by
  refine Ends.get_bind (ends_source_bind fun _ => ends_bond fun ledger => ?_)
  split
  · exact Moved.refl ledger
  · exact (Moved.refl ledger).of_books rfl rfl rfl rfl rfl

/-- **A delegator** bonds the stake. -/
theorem ends_addDelegator (ledger : Ledger) (user : User) (request : StakeRequest) :
    Ends (addDelegator user request) ledger
      (fun _ left => Moved ledger request.stake.toNat 0 left) (fun left => left = ledger)
      False :=
  Ends.get_bind (ends_source_bind fun _ =>
    ends_bond fun ledger => (Moved.refl ledger).of_books rfl rfl rfl rfl rfl)

end Ledger

end LedgerNet
