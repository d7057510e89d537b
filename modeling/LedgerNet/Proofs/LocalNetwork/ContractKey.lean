import LedgerNet.Proofs.Acceptance.Conversation
import LedgerNet.Proofs.Ledger.Writing
import LedgerNet.Proofs.LocalNetwork.Registering

/-!
# The key of a move to the contract lane

What is exported to the contract lane waits there under an address until it is
imported. The one who exports names that address; an import does not, and the
ledger finds it by itself. Both take the contract form of an exchange address, but
not of the same text: the funder has kept the address that its key stands for, and
the ledger takes the first address of the user.

That they agree comes down to one fact about addresses. Putting an address on a
lane takes the letter of a lane off and puts another one on, so it does not matter
which lane the address was on before (`Lane.address_address`), and all forms of an
address have the same contract form (`FormOf.address_eq`). The rest follows the two
sides. The funder exports to the contract form of its address and to nothing else,
whatever the node replies (`crosses_fundCAddresses`); an import of its user takes
what is pending under the contract form of the user's first address and nothing
else, on any ledger (`claims_cImport`); and the first address of a funder's user
stays the funded one, whatever happens to the network.
-/

namespace LedgerNet

/-! ## Forms of an address -/

/-- **The last lane decides** when an address is put on one lane after another. -/
theorem Lane.address_address (first second : Lane) (address : String) :
    second.address (first.address address) = second.address address := by
  show second.letter ++ "-" ++ String.ofList (addressBody (first.address address).toList)
    = second.letter ++ "-" ++ String.ofList (addressBody address.toList)
  rw [addressBody_address]

/-- **The forms of an address**: as it is given, and on each lane. -/
inductive FormOf (account : String) : String → Prop where
  | given : FormOf account account
  | on (lane : Lane) : FormOf account (lane.address account)

/-- All forms of an address are the same on a lane. -/
theorem FormOf.address_eq {account address : String} (h : FormOf account address) (lane : Lane) :
    lane.address address = lane.address account := by
  cases h with
  | given => rfl
  | on other => exact other.address_address lane account

/-! ## Calls between the lanes -/

/-- **A call that takes funds from one lane to another**, at either end. -/
def Call.crosses : Call → Bool
  | xExport _ _ _ | pExport _ _ _ | xImport _ _ _ | pImport _ _ _ | cImport _ _ _ => true
  | _ => false

section Crossing

variable {κ ε δ α β : Type} {client : κ}

/-- The calls between the lanes in a conversation, and who was asked. -/
def crossings (log : List (Exchange (Clients κ))) : List (κ × Call) :=
  (log.map Exchange.question).filter (·.2.crosses)

theorem crossings_append (before after : List (Exchange (Clients κ))) :
    crossings (before ++ after) = crossings before ++ crossings after := by
  unfold crossings
  rw [List.map_append, List.filter_append]

/-- **A program takes funds between the lanes by some calls**: it makes them in
their order, all of them if it ends well and the first ones otherwise, whatever it
is told. -/
def Crosses (p : Attempt (Timed (Clients κ)) ε α) (calls : List (κ × Call)) : Prop :=
  ∀ log outcome, p.Talk log outcome →
    crossings log <+: calls ∧ ∀ value, outcome = .ok value → crossings log = calls

namespace Crosses

variable {p : Attempt (Timed (Clients κ)) ε α} {next : α → Attempt (Timed (Clients κ)) ε β}
  {calls more : List (κ × Call)}

/-- **One program after another** makes the calls of both. -/
theorem bind (h : Crosses p calls) (hnext : ∀ value, Crosses (next value) more) :
    Crosses (p >>= next) (calls ++ more) := by
  intro log outcome htalk
  obtain ⟨cause, hp, rfl⟩ | ⟨value, before, after, rfl, hp, hafter⟩ := Attempt.talk_bind.1 htalk
  · exact ⟨(h _ _ hp).1.trans (List.prefix_append calls more), nofun⟩
  · obtain ⟨hfront, hall⟩ := hnext value _ _ hafter
    rw [crossings_append, (h _ _ hp).2 value rfl]
    exact ⟨(List.prefix_append_right_inj calls).2 hfront, fun result hok => by rw [hall result hok]⟩

/-- A program that makes no such call, whatever it asks. -/
theorem of_forall (h : ∀ log outcome, p.Talk log outcome →
    ∀ exchange ∈ log, exchange.call.crosses = false) : Crosses p [] := by
  intro log outcome htalk
  have hnone : crossings log = [] := by
    refine List.filter_eq_nil_iff.2 fun question hmem => ?_
    obtain ⟨exchange, hexchange, rfl⟩ := List.mem_map.1 hmem
    exact Bool.eq_false_iff.1 (h log outcome htalk exchange hexchange)
  exact ⟨hnone ▸ List.nil_prefix, fun _ _ => hnone⟩

theorem wrap (f : ε → δ) (h : Crosses p calls) : Crosses (p.wrap f) calls := by
  intro log outcome htalk
  obtain ⟨ended, hp, rfl⟩ := Attempt.talk_wrap.1 htalk
  refine ⟨(h _ _ hp).1, fun value hok => ?_⟩
  cases ended with
  | ok found => exact (h _ _ hp).2 found rfl
  | error cause => cases hok

/-- **A call** is one of them, or none. -/
theorem call (client : κ) (call : Call) :
    Crosses (stepCall client call) ([(client, call)].filter (·.2.crosses)) := by
  refine wrap _ fun log outcome htalk => ?_
  rw [Attempt.talk_callNode.1 htalk]
  exact ⟨List.prefix_refl _, fun _ _ => rfl⟩

/-- The same for each item of a list. -/
theorem forM {ι : Type} {step : ι → Attempt (Timed (Clients κ)) ε PUnit}
    {callsOf : ι → List (κ × Call)} (h : ∀ item, Crosses (step item) (callsOf item))
    (items : List ι) : Crosses (items.forM step) (items.flatMap callsOf) := by
  induction items with
  | nil =>
    rintro _ _ ⟨rfl, rfl⟩
    exact ⟨List.prefix_refl _, fun _ _ => rfl⟩
  | cons item rest ih =>
    rw [List.flatMap_cons]
    exact (h item).bind fun _ => ih

/-- A program that asks nothing. -/
theorem of_nil (h : ∀ log outcome, p.Talk log outcome → log = []) : Crosses p [] :=
  of_forall fun log outcome htalk exchange hmem => by
    rw [h log outcome htalk] at hmem
    exact absurd hmem List.not_mem_nil

/-- Waiting for a transaction on the exchange lane only asks for it. -/
theorem await_x {tx : TxId} {settings : PollSettings} :
    Crosses (Acceptance.await (nodeStatus client .x) tx .x settings) [] := by
  refine of_forall fun log outcome htalk exchange hmem => ?_
  have hx : Lane.x ≠ .c := by decide
  have hquestion : exchange.question = (client, Call.xStatus tx) := by
    obtain ⟨-, hseen⟩ | ⟨cause, -, hgiven⟩ := Acceptance.talk_await hx htalk
    · exact hseen.asks exchange hmem
    · exact hgiven.asks exchange hmem
  rw [Exchange.call, hquestion]
  rfl

/-- **The contract lane is not asked** for a transaction, since it cannot tell. -/
theorem talk_await_c {tx : TxId} {settings : PollSettings} {log : List (Exchange (Clients κ))}
    {outcome : Outcome AcceptanceError Unit}
    (h : (Acceptance.await (nodeStatus client .c) tx .c settings).Talk log outcome) :
    log = [] := by
  -- the first question is the last one, whatever the budget is
  obtain ⟨left, hleft⟩ : ∃ left, Acceptance.maxPolls = left + 1 := ⟨2 ^ 32 - 2, rfl⟩
  unfold Acceptance.await at h
  rw [hleft] at h
  obtain ⟨rfl, -⟩ | ⟨begun, -, h⟩ := Attempt.Silent.elapsed.talk_bind h
  · rfl
  · exact h.1

/-- Waiting on the contract lane is a pause. -/
theorem awaitOrPause_c {tx : TxId} {settings : PollSettings} :
    Crosses (Acceptance.awaitOrPause (nodeStatus client .c) tx .c settings) [] := by
  refine of_nil fun log outcome htalk => ?_
  unfold Acceptance.awaitOrPause at htalk
  obtain ⟨cause, hawait, -⟩ | ⟨ended, before, after, rfl, hawait, hafter⟩ :=
    Attempt.talk_bind.1 htalk
  · obtain ⟨_, hawait, -⟩ := Attempt.talk_outcome.1 hawait
    exact talk_await_c hawait
  · obtain ⟨_, hawait, -⟩ := Attempt.talk_outcome.1 hawait
    obtain rfl := talk_await_c hawait
    split at hafter
    · exact (Attempt.Silent.sleep _ _ _ hafter).1
    · exact hafter.1

end Crosses

end Crossing

/-! ## What a funder exports -/

namespace Funder

variable {κ : Type} (funder : Funder κ)

/-- The calls that move an amount to a contract address under a key: an export to
the key, and an import that does not name it. -/
def movesUnder (key : String) (amount : Amount) (address : String) : List (κ × Call) :=
  [(funder.client, .xExport funder.user amount key),
    (funder.client, .cImport funder.user address Lane.x.letter)]

theorem crosses_fundC (amount : Amount) (address : String) :
    Crosses (funder.fundC amount address)
      (funder.movesUnder (Lane.c.address funder.address) amount address) :=
  (Crosses.call funder.client (.xExport funder.user amount (Lane.c.address funder.address))).bind
    fun _ => (Crosses.await_x.wrap _).bind
    fun _ => (Crosses.call funder.client (.cImport funder.user address Lane.x.letter)).bind
    fun _ => Crosses.awaitOrPause_c.wrap _

/-- **A funder exports to the contract form of its address**, and to nothing
else. -/
theorem crosses_fundCAddresses (addresses : List String) (amount : Amount) :
    Crosses (funder.fundCAddresses addresses amount)
      (addresses.flatMap (funder.movesUnder (Lane.c.address funder.address) amount)) :=
  (Crosses.call funder.client (.cImportKey funder.user funder.privateKey)).bind
    fun _ => Crosses.forM (funder.crosses_fundC amount) addresses

end Funder

/-! ## What a ledger claims -/

namespace Ledger

variable {ledger : Ledger} {user : User} {source recipient : String} {amount : Amount}

/-- **An import to the contract lane claims a key**, however it ends. What is pending
under the key is gone, and nothing else that is pending; the recipient has got it
less a fee, or it was no more than the fee, and the import is refused. -/
structure Claims (ledger : Ledger) (key recipient : String)
    (ended : Outcome ApiError TxId × Ledger) : Prop where
  taken : ended.2.holdings.pending = Function.update ledger.holdings.pending key 0
  brings : ledger.holdings.fee < ledger.holdings.pending key →
    (∃ tx, ended.1 = .ok tx)
      ∧ ended.2.cBalance = Function.update ledger.cBalance recipient
        (ledger.cBalance recipient + (ledger.holdings.pending key - ledger.holdings.fee))
  refuses : ledger.holdings.pending key ≤ ledger.holdings.fee →
    ended.1 = Outcome.failed
        (.rpc "avax.import" refusalCode ("no funds to import for " ++ key))
      ∧ ended.2.cBalance = ledger.cBalance

/-- **An import claims the contract form of the user's first exchange address.** -/
theorem claims_cImport (hsource : (ledger.registry.xAddresses user.name).head? = some source)
    (recipient : String) :
    ledger.Claims (Lane.c.address source) recipient ((cImport user recipient).run.run ledger) := by
  by_cases hworth : ledger.holdings.fee < ledger.holdings.pending (Lane.c.address source)
  case pos =>
    have hturns : Turns (cImport user recipient) ledger.holdings _ := turns_cImport hsource hworth
    obtain ⟨tx, left, hrun, hleft⟩ := hturns ledger rfl
    rw [hrun]
    exact ⟨congrArg Holdings.pending hleft,
      fun _ => ⟨⟨tx, rfl⟩, congrArg Holdings.c hleft⟩, fun hle => absurd hworth (Nat.not_lt.2 hle)⟩
  case neg =>
    obtain ⟨left, hrun, hleft⟩ := run_cImport_refused recipient rfl hsource (Nat.not_lt.1 hworth)
    rw [hrun]
    exact ⟨congrArg Holdings.pending hleft, fun hlt => absurd hlt hworth,
      fun _ => ⟨rfl, congrArg Holdings.c hleft⟩⟩

/-- A transaction that is handed in changes nothing that is pending. -/
theorem pending_submitX : Leaves submitX ledger fun _ left =>
    left.holdings.pending = ledger.holdings.pending := by
  refine Ends.bind leaves_nextTx ?_
  rintro tx handedIn ⟨hholdings, -⟩
  have hpending : handedIn.holdings.pending = ledger.holdings.pending :=
    congrArg Holdings.pending hholdings
  refine Ends.modify_bind (Ends.of_pure ?_)
  split <;> exact hpending

/-- **An export adds the amount under the key** that it names. -/
theorem pending_xExport {key : String} : Leaves (xExport user amount key) ledger fun _ left =>
    left.holdings.pending = Function.update ledger.holdings.pending key
      (ledger.holdings.pending key + amount.toNat) := by
  refine Ends.get_bind (Ends.bind ((ends_firstAddress ledger ledger.xAddresses user _).mono
    (fun _ _ h => h) (fun _ _ => trivial) fun _ => trivial) ?_)
  rintro source ledger ⟨rfl, -⟩
  refine Ends.checked_bind (fun cost _ => ?_) fun _ _ => trivial
  refine Ends.bind leaves_adjustX ?_
  rintro _ _ ⟨balance, -, rfl⟩
  refine Ends.bind leaves_park ?_
  rintro _ parked ⟨hparked, -⟩
  refine pending_submitX.mono (fun _ left hleft => ?_) (fun _ h => h) id
  rw [hleft, hparked]
  rfl

end Ledger

/-! ## Both sides -/

namespace LocalNetwork

variable {account source recipient : String}

/-- Whichever form of an account the funder has kept, it exports to the contract
form of the account. -/
theorem crosses_of_form {κ : Type} {funder : Funder κ} (h : FormOf account funder.address)
    (addresses : List String) (amount : Amount) :
    Crosses (funder.fundCAddresses addresses amount)
      (addresses.flatMap (funder.movesUnder (Lane.c.address account) amount)) := by
  rw [← h.address_eq .c]
  exact funder.crosses_fundCAddresses addresses amount

/-- Whichever form of an account is the first address of a user, an import of the
user claims the contract form of the account. -/
theorem claims_of_form {ledger : Ledger} {user : User}
    (hsource : (ledger.registry.xAddresses user.name).head? = some source)
    (h : FormOf account source) (recipient : String) :
    ledger.Claims (Lane.c.address account) recipient
      ((Ledger.cImport user recipient).run.run ledger) := by
  rw [← h.address_eq .c]
  exact Ledger.claims_cImport hsource recipient

/-- **A node that is made the funder** has the funded address, and its user claims
the contract form of it, whatever happens to the network in between. -/
theorem importFunds_claims {id : String} {client : LocalClient} {user : User}
    {settings : StakingSettings} {epoch now : Duration} {base : LocalNetwork} {ledger : Ledger}
    (hnew : user.name ∉ ledger.users) :
    ∃ funder left, (Funder.importFunds id client user ledger.fundedKey settings).runOn
          (Timeline.handler answer) (moment epoch base now ledger)
        = (.ok funder, moment epoch base now left)
      ∧ funder.user = user ∧ funder.address = ledger.fundedAddress
      ∧ ∀ acts recipient,
        let later := (performAll acts { base with ledger := left }).2.ledger
        later.Claims (Lane.c.address ledger.fundedAddress) recipient
          ((Ledger.cImport user recipient).run.run later) := by
  obtain ⟨funder, left, hrun, rfl, haddress, hknown⟩ :=
    importFunds_stays_known id client settings epoch now base hnew rfl
  refine ⟨funder, left, hrun, rfl, haddress, fun acts recipient => ?_⟩
  rw [← haddress]
  exact Ledger.claims_cImport (hknown acts).xFirst recipient

/-- **Funds for the contract lane are claimed where they were put.** An address that
is put on one lane after another is on the last one, so all forms of an account
have one contract form. Whichever form a funder has kept, it exports to the contract
form of the account, and nowhere else, whatever it is told; the ledger adds the
amount there; and an import of the user takes what is there, if the first address of
the user is any form of the account. The first address of a user that is made the
funder is the funded one, whatever happens to the network. -/
theorem contract_key_agrees (account : String) :
    (∀ first second : Lane, second.address (first.address account) = second.address account)
      ∧ (∀ lane : Lane, lane.address (lane.address account) = lane.address account)
      ∧ (∀ funder : Funder LocalClient, FormOf account funder.address →
        (∀ addresses amount, Crosses (funder.fundCAddresses addresses amount)
          (addresses.flatMap (funder.movesUnder (Lane.c.address account) amount)))
        ∧ (∀ (ledger : Ledger) amount,
          Ledger.Leaves (Ledger.xExport funder.user amount (Lane.c.address account)) ledger
            fun _ left => left.holdings.pending
              = Function.update ledger.holdings.pending (Lane.c.address account)
                (ledger.holdings.pending (Lane.c.address account) + amount.toNat))
        ∧ ∀ (ledger : Ledger) source recipient,
          (ledger.registry.xAddresses funder.user.name).head? = some source →
          FormOf account source →
          ledger.Claims (Lane.c.address account) recipient
            ((Ledger.cImport funder.user recipient).run.run ledger))
      ∧ ∀ (epoch now : Duration) (base : LocalNetwork) (ledger : Ledger) (id : String)
          (client : LocalClient) (user : User) (settings : StakingSettings),
        ledger.fundedAddress = account → user.name ∉ ledger.users →
        ∃ funder left, (Funder.importFunds id client user ledger.fundedKey settings).runOn
              (Timeline.handler answer) (moment epoch base now ledger)
            = (.ok funder, moment epoch base now left)
          ∧ funder.user = user ∧ funder.address = account
          ∧ ∀ acts recipient,
            let later := (performAll acts { base with ledger := left }).2.ledger
            later.Claims (Lane.c.address account) recipient
              ((Ledger.cImport user recipient).run.run later) := by
  refine ⟨fun first second => first.address_address second account,
    fun lane => lane.address_address lane account, fun funder hform => ⟨?_, ?_, ?_⟩, ?_⟩
  · exact crosses_of_form hform
  · exact fun ledger amount => Ledger.pending_xExport
  · exact fun ledger source recipient hsource hsourceForm =>
      claims_of_form hsource hsourceForm recipient
  · rintro epoch now base ledger id client user settings rfl hnew
    exact importFunds_claims hnew

/-- The exporter keeps the platform form of the funded address, and the ledger has
the exchange form; what is exported for an address gets to it, less the fee. On a
ledger without users the exporter is made the funder. -/
theorem contract_key_agrees_forms :
    let key := "C-local18jma8ppw3nhx5r4ap8clazz0dps7rv5u00z96u"
    let exporter := { treasurer with address := Lane.p.address treasurer.address }
    let parked := { treasury with pending := Book.empty.put key 30 }
    let imported := (Ledger.cImport exporter.user "0xann").run.run parked
    Crosses (exporter.fundCAddresses ["0xann"] 30)
        [(exporter.client, .xExport exporter.user 30 key),
          (exporter.client, .cImport exporter.user "0xann" "X")]
      ∧ imported.2.holdings.pending key = 0 ∧ imported.2.cBalance "0xann" = 20
      ∧ ∃ funder, ((Funder.importFunds "m" exporter.client exporter.user exporter.privateKey
            exporter.settings).runOn (Timeline.handler answer)
            (moment .zero (ofGenesis Genesis.localNet 10) .zero
              (Ledger.ofGenesis Genesis.localNet 10))).1 = .ok funder
          ∧ funder.address = treasurer.address := by
  intro key exporter parked imported
  obtain ⟨-, -, hsides, hfunder⟩ := contract_key_agrees treasurer.address
  obtain ⟨hexports, -, hclaims⟩ := hsides exporter (.on .p)
  have hkey : Lane.c.address treasurer.address = key := by decide +kernel
  rw [hkey] at hexports hclaims
  have hclaimed := hclaims parked treasurer.address "0xann" rfl .given
  obtain ⟨-, hbalance⟩ := hclaimed.brings (by decide)
  refine ⟨hexports ["0xann"] 30, ?_, ?_, ?_⟩
  · rw [hclaimed.taken, Function.update_self]
  · rw [hbalance, Function.update_self]
    decide
  · obtain ⟨funder, left, hrun, -, haddress, -⟩ := hfunder .zero .zero
      (ofGenesis Genesis.localNet 10) (Ledger.ofGenesis Genesis.localNet 10) "m" exporter.client
      exporter.user exporter.settings rfl List.not_mem_nil
    exact ⟨funder, congrArg Prod.fst hrun, haddress⟩

end LocalNetwork

end LedgerNet
