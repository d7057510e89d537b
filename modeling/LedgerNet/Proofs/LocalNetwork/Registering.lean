import LedgerNet.Proofs.LocalNetwork.Funding
import LedgerNet.Proofs.LocalNetwork.Money

/-!
# Who stays known to a network

A ledger never forgets a user, and it never takes the first address of a user
away: new addresses are put behind the old ones, except that the key of the
funded account puts the funded address in front. So a registry only ever grows
(`Registry.Extends`), whichever way a call ends, and with it everything that
happens to a network.

A funder has the funded address itself, so another import of the key does not
displace its address. It is known from when it is made, and it stays known.
-/

namespace LedgerNet

/-- **A registry grows**: the funded account stays the same, users stay, and
the first address of a user stays first or gives way to the funded one. -/
structure Registry.Extends (before after : Registry) : Prop where
  fundedKey_eq : after.fundedKey = before.fundedKey
  fundedAddress_eq : after.fundedAddress = before.fundedAddress
  users : ∀ name ∈ before.users, name ∈ after.users
  xFirst : ∀ name address, (before.xAddresses name).head? = some address →
    (after.xAddresses name).head? = some address
      ∨ (after.xAddresses name).head? = some before.fundedAddress
  pFirst : ∀ name address, (before.pAddresses name).head? = some address →
    (after.pAddresses name).head? = some address

namespace Registry.Extends

variable {before between after registry : Registry} {name address : String}

theorem refl (registry : Registry) : registry.Extends registry :=
  ⟨rfl, rfl, fun _ h => h, fun _ _ h => .inl h, fun _ _ h => h⟩

theorem trans (h : before.Extends between) (h' : between.Extends after) :
    before.Extends after where
  fundedKey_eq := h'.fundedKey_eq.trans h.fundedKey_eq
  fundedAddress_eq := h'.fundedAddress_eq.trans h.fundedAddress_eq
  users name hname := h'.users name (h.users name hname)
  xFirst name address haddress := by
    obtain hkept | hfunded := h.xFirst name address haddress
    · exact h.fundedAddress_eq ▸ h'.xFirst name address hkept
    · obtain hstill | hagain := h'.xFirst name _ hfunded
      · exact .inr hstill
      · exact .inr (h.fundedAddress_eq ▸ hagain)
  pFirst name address haddress := h'.pFirst name address (h.pFirst name address haddress)

/-- A user more. -/
theorem enter (registry : Registry) (name : String) :
    registry.Extends { registry with users := registry.users ++ [name] } :=
  ⟨rfl, rfl, fun _ h => List.mem_append_left _ h, fun _ _ h => .inl h, fun _ _ h => h⟩

/-- What is put behind the addresses of a user does not change the first one. -/
theorem head?_update_append {addresses : String → List String} {other new : String}
    (h : (addresses name).head? = some address) :
    (Function.update addresses other (addresses other ++ [new]) name).head? = some address := by
  by_cases hname : name = other
  · subst hname
    rw [Function.update_self, List.head?_append, h]
    rfl
  · rw [Function.update_of_ne hname, h]

/-- An address more on the exchange lane. -/
theorem addX (registry : Registry) (name address : String) :
    registry.Extends { registry with
      xAddresses := Function.update registry.xAddresses name
        (registry.xAddresses name ++ [address]) } :=
  ⟨rfl, rfl, fun _ h => h, fun _ _ h => .inl (head?_update_append h), fun _ _ h => h⟩

/-- An address more on the platform lane. -/
theorem addP (registry : Registry) (name address : String) :
    registry.Extends { registry with
      pAddresses := Function.update registry.pAddresses name
        (registry.pAddresses name ++ [address]) } :=
  ⟨rfl, rfl, fun _ h => h, fun _ _ h => .inl h, fun _ _ h => head?_update_append h⟩

/-- The funded address in front. -/
theorem fund (registry : Registry) (name : String) :
    registry.Extends { registry with
      xAddresses := Function.update registry.xAddresses name
        (registry.fundedAddress :: registry.xAddresses name) } where
  fundedKey_eq := rfl
  fundedAddress_eq := rfl
  users _ h := h
  xFirst other address h := by
    dsimp only
    by_cases hname : other = name
    · subst hname
      rw [Function.update_self]
      exact .inr rfl
    · rw [Function.update_of_ne hname]
      exact .inl h
  pFirst _ _ h := h

end Registry.Extends

/-! ## Actions on a ledger -/

namespace Ledger

variable {α β : Type} {ledger : Ledger} {action : LedgerAction α} {next : α → LedgerAction β}

/-- **An action lets the registry grow**, however it ends. -/
def Registers (action : LedgerAction α) (ledger : Ledger) : Prop :=
  ledger.registry.Extends (action.run.run ledger).2.registry

namespace Registers

theorem of_pure (value : α) : Registers (pure value) ledger := .refl _

theorem of_refuse (method reason : String) :
    Registers (refuse method reason : LedgerAction α) ledger :=
  .refl _

theorem of_set {changed : Ledger} (h : ledger.registry.Extends changed.registry) :
    Registers (set changed) ledger := h

theorem of_modify {f : Ledger → Ledger} (h : ledger.registry.Extends (f ledger).registry) :
    Registers (modify f) ledger := h

theorem of_modifyGet {f : Ledger → α × Ledger}
    (h : ledger.registry.Extends (f ledger).2.registry) : Registers (modifyGet f) ledger := h

theorem get_bind {next : Ledger → LedgerAction β} (h : Registers (next ledger) ledger) :
    Registers (get >>= next) ledger := h

/-- A computation on numbers leaves the ledger as it is. -/
theorem checked_bind {result : Checked α} (h : ∀ value, Registers (next value) ledger) :
    Registers (checked result >>= next) ledger := by
  cases result with
  | ok value => exact h value
  | error cause => exact .refl _

/-- **One part after another.** -/
theorem bind (h : Registers action ledger) (hnext : ∀ value left, Registers (next value) left) :
    Registers (action >>= next) ledger := by
  unfold Registers at h ⊢
  rcases hrun : action.run.run ledger with ⟨cause | value, left⟩ <;> rw [hrun] at h
  · rw [run_bind_error hrun]
    exact h
  · rw [run_bind_ok hrun]
    exact h.trans (hnext value left)

end Registers

/-! ### The parts of a call -/

theorem registers_checkUser (user : User) (method : String) :
    Registers (checkUser user method) ledger := by
  refine .get_bind ?_
  split
  · exact .of_pure ()
  · exact .of_refuse _ _

theorem registers_firstAddress (book : Book (List String)) (user : User) (method : String) :
    Registers (firstAddress book user method) ledger := by
  unfold firstAddress
  split
  · exact .of_pure _
  · exact .of_refuse _ _

theorem registers_adjustX (address : String) (credit debit : Amount) (method : String) :
    Registers (adjustX address credit debit method) ledger := by
  refine .get_bind (.checked_bind fun before => ?_)
  split
  · exact .of_set (.refl _)
  · exact .of_refuse _ _

theorem registers_adjustP (address : String) (credit debit : Amount) (method : String) :
    Registers (adjustP address credit debit method) ledger := by
  refine .get_bind (.checked_bind fun before => ?_)
  split
  · exact .of_set (.refl _)
  · exact .of_refuse _ _

theorem registers_park (address : String) (amount : Amount) :
    Registers (park address amount) ledger :=
  .get_bind (.checked_bind fun _ => .of_set (.refl _))

theorem registers_claim (address method : String) : Registers (claim address method) ledger := by
  refine .get_bind (.bind (.of_set (.refl _)) fun _ left => ?_)
  split
  · exact .of_pure _
  · exact .of_refuse _ _

theorem registers_submitX : Registers submitX ledger := by
  refine .bind (.of_modifyGet (.refl _)) fun _ left => .bind (.of_modify ?_) fun _ _ => .of_pure _
  split <;> exact .refl _

theorem registers_submitP : Registers submitP ledger := by
  refine .bind (.of_modifyGet (.refl _)) fun _ left => .bind (.of_modify ?_) fun _ _ => .of_pure _
  split <;> exact .refl _

/-! ### The calls -/

variable (user : User) (recipient : String) (amount : Amount)

theorem registers_createUser : Registers (createUser user) ledger := by
  refine .get_bind ?_
  split
  · exact .of_refuse _ _
  · exact .of_modify (.enter _ _)

theorem registers_xCreateAddress : Registers (xCreateAddress user) ledger :=
  .bind (registers_checkUser user _) fun _ left =>
    .of_modifyGet (registry_putX left _ _ ▸ .addX left.registry _ _)

theorem registers_pCreateAddress : Registers (pCreateAddress user) ledger :=
  .bind (registers_checkUser user _) fun _ left =>
    .of_modifyGet (registry_putP left _ _ ▸ .addP left.registry _ _)

theorem registers_xImportKey (key : String) : Registers (xImportKey user key) ledger := by
  refine .bind (registers_checkUser user _) fun _ left => .get_bind ?_
  split
  · exact .of_modifyGet (registry_putX left _ _ ▸ .fund left.registry _)
  · exact .of_refuse _ _

theorem registers_xSend : Registers (xSend user amount recipient) ledger :=
  .get_bind <| .bind (registers_firstAddress _ _ _) fun _ _ => .checked_bind fun _ =>
    .bind (registers_adjustX _ _ _ _) fun _ _ => .bind (registers_adjustX _ _ _ _) fun _ _ =>
    registers_submitX

/-- Several credits. -/
theorem registers_credits (outputs : List SendOutput) (method : String) :
    Registers (outputs.forM fun output => adjustX output.recipient output.amount 0 method)
      ledger := by
  induction outputs generalizing ledger with
  | nil => exact .of_pure _
  | cons output rest ih => exact .bind (registers_adjustX _ _ _ _) fun _ _ => ih

theorem registers_xSendMultiple (outputs : List SendOutput) :
    Registers (xSendMultiple user outputs) ledger :=
  .get_bind <| .bind (registers_firstAddress _ _ _) fun _ _ => .checked_bind fun _ =>
    .checked_bind fun _ => .bind (registers_adjustX _ _ _ _) fun _ _ =>
    .bind (registers_credits _ _) fun _ _ => registers_submitX

theorem registers_xExport : Registers (xExport user amount recipient) ledger :=
  .get_bind <| .bind (registers_firstAddress _ _ _) fun _ _ => .checked_bind fun _ =>
    .bind (registers_adjustX _ _ _ _) fun _ _ => .bind (registers_park _ _) fun _ _ =>
    registers_submitX

theorem registers_pExport : Registers (pExport user recipient amount) ledger :=
  .get_bind <| .bind (registers_firstAddress _ _ _) fun _ _ => .checked_bind fun _ =>
    .bind (registers_adjustP _ _ _ _) fun _ _ => .bind (registers_park _ _) fun _ _ =>
    registers_submitP

theorem registers_xImport : Registers (xImport user recipient) ledger :=
  .bind (registers_checkUser _ _) fun _ _ => .bind (registers_claim _ _) fun _ _ =>
    .bind (registers_adjustX _ _ _ _) fun _ _ => registers_submitX

theorem registers_pImport : Registers (pImport user recipient) ledger :=
  .bind (registers_checkUser _ _) fun _ _ => .bind (registers_claim _ _) fun _ _ =>
    .bind (registers_adjustP _ _ _ _) fun _ _ => registers_submitP

theorem registers_cImportKey (key : String) : Registers (cImportKey user key) ledger := by
  refine .bind (registers_checkUser user _) fun _ left => .get_bind ?_
  split
  · exact .of_pure _
  · exact .of_refuse _ _

theorem registers_cImport : Registers (cImport user recipient) ledger :=
  .get_bind <| .bind (registers_firstAddress _ _ _) fun _ _ => .bind (registers_claim _ _)
    fun _ _ => .bind (.of_modify (.refl _)) fun _ _ => .of_modifyGet (.refl _)

theorem registers_addValidator (request : StakeRequest) :
    Registers (addValidator user request) ledger := by
  refine .get_bind <| .bind (registers_firstAddress _ _ _) fun _ _ =>
    .bind (registers_adjustP _ _ _ _) fun _ left => .bind (.of_modify ?_) fun _ _ =>
    registers_submitP
  split <;> exact .refl _

theorem registers_addDelegator (request : StakeRequest) :
    Registers (addDelegator user request) ledger :=
  .get_bind <| .bind (registers_firstAddress _ _ _) fun _ _ =>
    .bind (registers_adjustP _ _ _ _) fun _ _ => .bind (.of_modify (.refl _)) fun _ _ =>
    registers_submitP

theorem registers_xStatus (tx : TxId) : Registers (xStatus tx) ledger := by
  refine .bind (.of_modify (.refl _)) fun _ left => .of_modifyGet ?_
  split <;> exact .refl _

theorem registers_pStatus (tx : TxId) : Registers (pStatus tx) ledger := by
  refine .bind (.of_modify (.refl _)) fun _ left => .of_modifyGet ?_
  split <;> exact .refl _

end Ledger

/-! ## Networks -/

namespace LocalNetwork

/-- **Every call lets the registry grow.** -/
theorem extends_answer (client : LocalClient) (call : Call) (network : LocalNetwork) :
    network.ledger.registry.Extends (answer (client, call) network).2.ledger.registry := by
  cases call with
  | createUser user => exact Ledger.registers_createUser user
  | xCreateAddress user => exact Ledger.registers_xCreateAddress user
  | pCreateAddress user => exact Ledger.registers_pCreateAddress user
  | xImportKey user key => exact Ledger.registers_xImportKey user key
  | cImportKey user key => exact Ledger.registers_cImportKey user key
  | xSend user amount asset recipient => exact Ledger.registers_xSend user recipient amount
  | xSendMultiple user outputs => exact Ledger.registers_xSendMultiple user outputs
  | xExport user amount recipient => exact Ledger.registers_xExport user recipient amount
  | pExport user recipient amount => exact Ledger.registers_pExport user recipient amount
  | xImport user recipient source => exact Ledger.registers_xImport user recipient
  | pImport user recipient source => exact Ledger.registers_pImport user recipient
  | cImport user recipient source => exact Ledger.registers_cImport user recipient
  | addValidator user request feeRate => exact Ledger.registers_addValidator user request
  | addDelegator user request => exact Ledger.registers_addDelegator user request
  | xStatus tx => exact Ledger.registers_xStatus tx
  | pStatus tx => exact Ledger.registers_pStatus tx
  | nodeId | isBootstrapped | peers | xBalance | pBalance | cBalance | validators => exact .refl _

/-- **Whatever happens to a network** lets the registry grow. -/
theorem extends_perform (act : Act) (network : LocalNetwork) :
    network.ledger.registry.Extends (act.perform network).2.ledger.registry := by
  cases act with
  | call client call => exact extends_answer client call network
  | mint address amount => exact Ledger.registers_adjustX address amount 0 "mint"
  | start spec =>
    show network.ledger.registry.Extends (LocalNetwork.start spec network).2.ledger.registry
    rw [ledger_start]
    exact .refl _
  | stop id =>
    show network.ledger.registry.Extends (LocalNetwork.stop id network).2.ledger.registry
    rw [ledger_stop]
    exact .refl _
  | scriptX | scriptP | hideValidators | holdBack | release | setPeers => exact .refl _

theorem extends_performAll (acts : List Act) (network : LocalNetwork) :
    network.ledger.registry.Extends (performAll acts network).2.ledger.registry := by
  induction acts generalizing network with
  | nil => exact .refl _
  | cons act rest ih => exact (extends_perform act network).trans (ih _)

end LocalNetwork

/-! ## Funders -/

namespace Funder.KnownTo

variable {funder : Funder LocalClient} {before after : Registry}

/-- **A funder with the funded address stays known**, however the registry
grows. -/
theorem of_extends (h : funder.KnownTo before) (haddress : funder.address = before.fundedAddress)
    (hextends : before.Extends after) : funder.KnownTo after where
  user_mem := hextends.users _ h.user_mem
  xFirst := by
    obtain hkept | hfunded := hextends.xFirst _ _ h.xFirst
    · exact hkept
    · rw [hfunded, haddress]
  key_eq := h.key_eq.trans hextends.fundedKey_eq.symm

end Funder.KnownTo

/-- The registry that a new funder leaves knows it. -/
theorem Registry.knows_funding {registry : Registry} {id key : String} {client : LocalClient}
    {user : User} {settings : StakingSettings} (hkey : key = registry.fundedKey) :
    (⟨id, client, user, key, registry.fundedAddress, settings⟩ : Funder LocalClient).KnownTo
      (registry.funding user) where
  user_mem := List.mem_append_right _ List.mem_cons_self
  xFirst := by
    show (Function.update registry.xAddresses user.name _ user.name).head? = _
    rw [Function.update_self]
    rfl
  key_eq := hkey

/-- **A node that is made the funder** has the funded address, and it is known from
then on, whatever happens to the network. -/
theorem LocalNetwork.importFunds_stays_known (id : String) (client : LocalClient)
    (settings : StakingSettings) (epoch now : Duration) (base : LocalNetwork) {user : User}
    {key : String} {ledger : Ledger} (hnew : user.name ∉ ledger.users)
    (hkey : key = ledger.fundedKey) :
    ∃ funder left, (Funder.importFunds id client user key settings).runOn
          (Timeline.handler answer) (moment epoch base now ledger)
        = (.ok funder, moment epoch base now left)
      ∧ funder.user = user ∧ funder.address = ledger.fundedAddress
      ∧ ∀ acts, funder.KnownTo
          (performAll acts { base with ledger := left }).2.ledger.registry := by
  have hdrives : Drives epoch base (Funder.importFunds id client user key settings) now
      ledger.holdings _ := drives_importFunds hnew hkey
  obtain ⟨funder, _, left, hrun, hfunder, rfl, hleft⟩ := hdrives ledger rfl
  have hregistry : left.registry = ledger.registry.funding user := congrArg Holdings.registry hleft
  have hknown : funder.KnownTo left.registry := by
    rw [hfunder, hregistry]
    exact Registry.knows_funding hkey
  have haddress : funder.address = left.registry.fundedAddress := by
    rw [hfunder, hregistry]
    rfl
  exact ⟨funder, left, hrun, hfunder ▸ rfl, hfunder ▸ rfl, fun acts =>
    hknown.of_extends haddress (extends_performAll acts { base with ledger := left })⟩

end LedgerNet
