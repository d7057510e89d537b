import LedgerNet.Proofs.Ledger.Calls
import LedgerNet.Proofs.Ledger.Endings

/-!
# What the calls of a funder do to a ledger

A funder pays several outputs at once, and it moves funds to the contract
lane. Several outputs cost their sum and one fee. An address may be among
their recipients more than once, so what it receives is a sum of its own
(`received`).

An import to the contract lane claims what is pending under the contract form
of the user's first exchange address, whoever the recipient is. What does not
exceed the fee is refused there as on the other lanes, and it is gone all the
same.
-/

namespace LedgerNet

namespace Ledger

variable {h : Holdings} {ledger : Ledger} {user : User} {source recipient : String}

/-! ## Several outputs -/

/-- What an address receives of some outputs. -/
def received (outputs : List SendOutput) (address : String) : Nat :=
  outputSum (outputs.filter (·.recipient = address))

theorem received_cons (output : SendOutput) (outputs : List SendOutput) (address : String) :
    received (output :: outputs) address
      = (if output.recipient = address then output.amount.toNat else 0)
        + received outputs address := by
  unfold received outputSum
  rw [List.filter_cons]
  by_cases hrecipient : output.recipient = address <;> simp [hrecipient]

/-- Outputs that are all the same go to one address. -/
theorem received_replicate (times : Nat) (output : SendOutput) (address : String) :
    received (List.replicate times output) address
      = if output.recipient = address then times * output.amount.toNat else 0 := by
  unfold received outputSum
  rw [List.filter_replicate]
  by_cases hrecipient : output.recipient = address <;> simp [hrecipient]

/-- Who is not among the recipients receives nothing. -/
theorem received_eq_zero {outputs : List SendOutput} {address : String}
    (h : ∀ output ∈ outputs, output.recipient ≠ address) : received outputs address = 0 := by
  unfold received
  rw [List.filter_eq_nil_iff.2 fun output hmem => by simpa using h output hmem]
  rfl

/-- What outputs come to that are all the same. -/
theorem outputSum_replicate (times : Nat) (output : SendOutput) :
    outputSum (List.replicate times output) = times * output.amount.toNat := by
  simp [outputSum]

/-- **Several balances of the exchange lane grow**, each by what it
receives. -/
theorem succeeds_credits {outputs : List SendOutput} {method : String}
    (hledger : ledger.holdings = h)
    (hfits : ∀ address, h.x address + received outputs address < 2 ^ 64) :
    Succeeds (outputs.forM fun output => adjustX output.recipient output.amount 0 method) ledger
      fun _ left => left.holdings = { h with
        x := fun address => h.x address + received outputs address } := by
  induction outputs generalizing ledger h with
  | nil => exact Succeeds.of_pure hledger
  | cons output rest ih =>
    have hfirst : h.x output.recipient + output.amount.toNat < 2 ^ 64 := by
      have hboth := hfits output.recipient
      rw [received_cons, if_pos rfl] at hboth
      omega
    -- what is left to receive, on top of what was received first
    have hsum : ∀ address, Function.update h.x output.recipient
          (h.x output.recipient + output.amount.toNat) address + received rest address
        = h.x address + received (output :: rest) address := by
      intro address
      rw [received_cons]
      by_cases haddress : output.recipient = address
      · subst haddress
        rw [Function.update_self, if_pos rfl]
        omega
      · rw [Function.update_of_ne (Ne.symm haddress), if_neg haddress]
        omega
    show Succeeds (adjustX output.recipient output.amount 0 method >>= fun _ =>
      rest.forM fun output => adjustX output.recipient output.amount 0 method) ledger _
    refine Succeeds.bind (succeeds_creditX hledger hfirst) fun _ credited hcredited => ?_
    obtain ⟨_, left, hrun, hleft⟩ := ih hcredited fun address => (hsum address).symm ▸ hfits address
    refine ⟨_, left, hrun, hleft.trans ?_⟩
    exact congrArg (fun x => { h with x }) (funext hsum)

/-- A sum that fits has a value. -/
theorem total_of_lt {outputs : List SendOutput} (h : outputSum outputs < 2 ^ 64) :
    ∃ total, Amount.total (outputs.map SendOutput.amount) = .ok total
      ∧ total.toNat = outputSum outputs := by
  have htotal := Amount.foldlM_plus (outputs.map SendOutput.amount) 0
  rw [List.map_map] at htotal
  cases hsum : (outputs.map SendOutput.amount).foldlM Amount.plus 0 with
  | ok total =>
    rw [hsum] at htotal
    exact ⟨total, hsum, htotal.trans (Nat.zero_add _)⟩
  | error cause =>
    rw [hsum] at htotal
    have hlarge : 2 ^ 64 ≤ 0 + outputSum outputs := htotal
    omega

/-- **A payment to several** costs the sum of the outputs and one fee. -/
theorem turns_xSendMultiple (outputs : List SendOutput) (hsettled : h.outlook.Settled)
    (hsource : (h.registry.xAddresses user.name).head? = some source)
    (hne : ∀ output ∈ outputs, output.recipient ≠ source)
    (hfunds : outputSum outputs + h.fee ≤ h.x source)
    (hfits : ∀ output ∈ outputs,
      h.x output.recipient + received outputs output.recipient < 2 ^ 64) :
    Turns (xSendMultiple user outputs) h fun _ left =>
      left = { h with
        x := fun address =>
          Function.update h.x source (h.x source - (outputSum outputs + h.fee)) address
            + received outputs address } := by
  intro ledger hledger
  have hx : ∀ address, h.x address < 2 ^ 64 := fun address => by
    rw [← hledger]
    exact UInt64.toNat_lt _
  have hsum : outputSum outputs < 2 ^ 64 := by
    have hheld := hx source
    omega
  obtain ⟨total, htotal, htotaln⟩ := total_of_lt hsum
  rw [← htotaln] at hfunds ⊢
  refine Succeeds.get_bind (xSource_bind hledger hsource (Succeeds.checked_bind htotal ?_))
  refine payX_bind hledger hfunds fun paid hpaid => ?_
  refine Succeeds.bind (succeeds_credits hpaid fun address => ?_) fun _ left hleft =>
    succeeds_submitX hleft hsettled
  -- the source receives nothing, and neither does anybody who is not a recipient
  show Function.update h.x source (h.x source - (total.toNat + h.fee)) address
    + received outputs address < 2 ^ 64
  by_cases hrecipient : ∃ output ∈ outputs, output.recipient = address
  · obtain ⟨output, hmem, rfl⟩ := hrecipient
    rw [Function.update_of_ne (hne output hmem)]
    exact hfits output hmem
  · rw [received_eq_zero fun output hmem heq => hrecipient ⟨output, hmem, heq⟩, Nat.add_zero,
      Function.update_apply]
    have hheld := hx source
    split
    · omega
    · exact hx address

/-! ## The contract lane -/

/-- **The key of the funded account** is known on the contract lane, and
importing it there changes nothing. -/
theorem turns_cImportKey {key : String} (huser : user.name ∈ h.registry.users)
    (hkey : key = h.registry.fundedKey) :
    Turns (cImportKey user key) h fun _ left => left = h := by
  rintro ledger rfl
  refine checkUser_bind rfl huser (Succeeds.get_bind ?_)
  rw [if_pos (show key = ledger.fundedKey from hkey)]
  exact Succeeds.of_pure rfl

/-- The holdings of a ledger with another balance on the contract lane. -/
theorem holdings_putC (ledger : Ledger) (address : String) (balance : Nat) :
    ({ ledger with c := ledger.c.put address balance } : Ledger).holdings
      = { ledger.holdings with c := Function.update ledger.cBalance address balance } :=
  congrArg (fun c => { ledger.holdings with c }) (Book.getD_put (fun balance => balance) _ _ _ _)

/-- A number that is an amount, and the ledger is as before. -/
theorem run_checked {α : Type} {result : Checked α} {value : α} (hresult : result = .ok value) :
    (checked result).run.run ledger = (.ok value, ledger) := by
  subst hresult
  rfl

/-- **More than there is cannot be taken**, and nothing has changed. -/
theorem run_debitX_refused {method : String} {debit : Amount}
    (hfunds : ledger.xBalance source < debit) :
    (adjustX source 0 debit method).run.run ledger
      = (.error (.error (.rpc method refusalCode ("insufficient funds on " ++ source))),
        ledger) := by
  obtain ⟨hsame, -⟩ := Amount.plus_of_lt (a := ledger.xBalance source) (b := 0)
    (UInt64.toNat_lt _)
  rw [UInt64.add_zero] at hsame
  show (checked (Amount.plus (ledger.xBalance source) 0) >>= fun before =>
    if debit ≤ before then _ else _ : LedgerAction Unit).run.run ledger = _
  rw [run_bind_ok (run_checked hsame), if_neg (UInt64.not_le.2 hfunds)]
  rfl

/-- **An export of more than there is to spend is refused**, and nothing has
changed. -/
theorem run_xExport_refused {amount : Amount} (hledger : ledger.holdings = h)
    (hsource : (h.registry.xAddresses user.name).head? = some source)
    (hfunds : h.x source < amount.toNat + h.fee) (hfits : amount.toNat + h.fee < 2 ^ 64) :
    (xExport user amount recipient).run.run ledger
      = (.error (.error (.rpc "avm.exportAVAX" refusalCode ("insufficient funds on " ++ source))),
        ledger) := by
  subst hledger
  obtain ⟨hcost, hcostn⟩ := Amount.plus_of_lt hfits
  have hpoor : ledger.xBalance source < amount + ledger.fee := by
    rw [UInt64.lt_iff_toNat_lt, hcostn]
    exact hfunds
  show (firstAddress ledger.xAddresses user "avm.exportAVAX" >>= _ : LedgerAction TxId).run.run
    ledger = _
  rw [run_bind_ok (run_firstAddress hsource), run_bind_ok (run_checked hcost),
    run_bind_error (run_debitX_refused hpoor)]

/-- **An import to the contract lane** brings what is pending under the
contract form of the user's first exchange address, less a fee. -/
theorem turns_cImport (hsource : (h.registry.xAddresses user.name).head? = some source)
    (hpending : h.fee < h.pending (Lane.c.address source)) :
    Turns (cImport user recipient) h fun _ left =>
      left = { h with
        c := Function.update h.c recipient
          (h.c recipient + (h.pending (Lane.c.address source) - h.fee))
        pending := Function.update h.pending (Lane.c.address source) 0 } := by
  intro ledger hledger
  refine Succeeds.get_bind (xSource_bind hledger hsource ?_)
  refine Succeeds.bind (succeeds_claim hledger hpending) ?_
  rintro claimed empty ⟨hclaimed, hempty⟩
  refine Succeeds.modify_bind (Succeeds.of_modifyGet ?_)
  show ({ empty with
    c := empty.c.put recipient (empty.cBalance recipient + claimed.toNat) } : Ledger).holdings = _
  rw [holdings_putC, hempty, hclaimed, show empty.cBalance = h.c from congrArg Holdings.c hempty]

/-- **An import of what the fee eats up is refused** on the contract lane, and
what was pending is gone. -/
theorem run_cImport_refused {ledger : Ledger} (recipient : String) (hledger : ledger.holdings = h)
    (hsource : (h.registry.xAddresses user.name).head? = some source)
    (hpending : h.pending (Lane.c.address source) ≤ h.fee) :
    ∃ left, (cImport user recipient).run.run ledger
        = (.error (.error (.rpc "avax.import" refusalCode
            ("no funds to import for " ++ Lane.c.address source))), left)
      ∧ left.holdings = { h with
        pending := Function.update h.pending (Lane.c.address source) 0 } := by
  subst hledger
  obtain ⟨left, hclaim, hleft⟩ := run_claim_refused rfl hpending
  refine ⟨left, ?_, hleft⟩
  show (firstAddress ledger.xAddresses user "avax.import" >>= _ : LedgerAction TxId).run.run
    ledger = _
  exact (run_bind_ok (run_firstAddress hsource)).trans (run_bind_error hclaim)

end Ledger

end LedgerNet
