import LedgerNet.Api.Call
import LedgerNet.Genesis
import LedgerNet.Rehearsal.Book

/-!
# A ledger in memory

A staking run can be rehearsed against a ledger that lives in memory. It
keeps the three lanes as books of balances and follows simple rules for
fees: sending and exporting costs the amount and a fee, an import brings the
exported amount less a fee, and staking costs the stake alone.

What is exported is pending under the address it was exported to until it
is claimed by an import. Claiming takes everything that is pending there,
and what does not exceed the fee is lost.

Transactions settle at once. A rehearsal can hand in the states that the
next transactions are to go through instead, and then each question about
one takes the next of its states.

Amounts are words, and adding them up can overflow. The counters and the
balances on the contract lane are plain numbers: a call adds at most one to a
counter and at most one amount to such a balance, so it takes 2^64 calls until
a counter does not fit in 64 bits, or such a balance in 128.
-/

namespace LedgerNet

/-- **The ledger**, with its users and the transactions it has seen. -/
structure Ledger where
  fee : Amount
  fundedKey : String
  fundedAddress : String
  /-- The names of the users. -/
  users : List String
  /-- The addresses of each user on the exchange lane. -/
  xAddresses : Book (List String)
  /-- The addresses of each user on the platform lane. -/
  pAddresses : Book (List String)
  x : Book Amount
  p : Book Amount
  /-- A balance here grows by less than 2^64 with an import and in no other
  way: 2^64 imports fit in 128 bits. -/
  c : Book Nat
  /-- What is exported and not yet imported, by the address it went to. -/
  pending : Book Amount
  /-- Every balance that an address has had, the first one first. -/
  history : Book (List Amount)
  /-- How many transactions were handed in, at most one by each call. -/
  transactions : Nat
  /-- The states of the next transactions on the exchange lane. -/
  xScripts : List (List XStatus)
  /-- The states of the next transactions on the platform lane. -/
  pScripts : List (List PStatusReply)
  /-- The states that transactions will still go through. -/
  xStates : Book (List XStatus)
  pStates : Book (List PStatusReply)
  /-- How often each transaction was asked for; a call asks for at most one. -/
  polls : Book Nat
  /-- Whether new validators are left out of the list. -/
  hidesValidators : Bool
  validators : List Validator
  delegations : List StakeRequest

/-- **What happens to a ledger**: it answers, or fails, and is changed by
what it did until then. -/
abbrev LedgerAction := ExceptT (Failure ApiError) (StateM Ledger)

namespace Ledger

/-- What the funded account holds in the beginning. -/
def fundedBalance : Amount := 300000000 * Units.one

/-- **The ledger in the beginning.** -/
def ofGenesis (genesis : Genesis) (fee : Amount) : Ledger where
  fee := fee
  fundedKey := genesis.funded.privateKey
  fundedAddress := genesis.funded.address
  users := []
  xAddresses := .empty
  pAddresses := .empty
  x := Book.empty.put genesis.funded.address fundedBalance
  p := .empty
  c := .empty
  pending := .empty
  history := .empty
  transactions := 0
  xScripts := []
  pScripts := []
  xStates := .empty
  pStates := .empty
  polls := .empty
  hidesValidators := false
  validators := []
  delegations := []

/-! ## What is shown -/

def xBalance (ledger : Ledger) (address : String) : Amount := ledger.x.getD address 0

def pBalance (ledger : Ledger) (address : String) : Amount := ledger.p.getD address 0

def cBalance (ledger : Ledger) (address : String) : Nat := ledger.c.getD address 0

/-! ## The parts of a call -/

/-- The code of every refusal. -/
def refusalCode : Int := -32000

/-- A call is refused. -/
def refuse {α : Type} (method reason : String) : LedgerAction α :=
  throw (.error (.rpc method refusalCode reason))

/-- A number that is an amount, or a crash. -/
def checked {α : Type} : Checked α → LedgerAction α
  | .ok value => pure value
  | .error cause => throw (.crash (.overflow cause))

/-- The user is known. -/
def checkUser (user : User) (method : String) : LedgerAction Unit := do
  if user.name ∈ (← get).users then pure () else refuse method ("unknown user " ++ user.name)

/-- The first address of a user. -/
def firstAddress (book : Book (List String)) (user : User) (method : String) :
    LedgerAction String :=
  match (book.getD user.name []).head? with
  | some address => pure address
  | none => refuse method ("user " ++ user.name ++ " has no address")

/-- The form of a new address: the user's name and how many addresses it
has already. -/
def newAddress (lane : Lane) (user : User) (addresses : List String) : String :=
  lane.letter ++ "-local1" ++ user.name ++ toString addresses.length

/-- **Credits and debits one balance** of the exchange lane. -/
def adjustX (address : String) (credit debit : Amount) (method : String) : LedgerAction Unit := do
  let ledger ← get
  let before ← checked (Amount.plus (ledger.xBalance address) credit)
  if debit ≤ before then
    set { ledger with
      x := ledger.x.put address (before - debit)
      history := ledger.history.put address
        (ledger.history.getD address [] ++ [before - debit]) }
  else refuse method ("insufficient funds on " ++ address)

/-- **Credits and debits one balance** of the platform lane. -/
def adjustP (address : String) (credit debit : Amount) (method : String) : LedgerAction Unit := do
  let ledger ← get
  let before ← checked (Amount.plus (ledger.pBalance address) credit)
  if debit ≤ before then
    set { ledger with
      p := ledger.p.put address (before - debit)
      history := ledger.history.put address
        (ledger.history.getD address [] ++ [before - debit]) }
  else refuse method ("insufficient funds on " ++ address)

/-- **Takes what is pending** under an address, less the fee. What is pending
there is gone, whether or not something is left of it. -/
def claim (address method : String) : LedgerAction Amount := do
  let ledger ← get
  let pending := ledger.pending.getD address 0
  set { ledger with pending := ledger.pending.erase address }
  if ledger.fee < pending then pure (pending - ledger.fee)
  else refuse method ("no funds to import for " ++ address)

/-- Makes an amount pending under an address. -/
def park (address : String) (amount : Amount) : LedgerAction Unit := do
  let ledger ← get
  let pending ← checked (Amount.plus (ledger.pending.getD address 0) amount)
  set { ledger with pending := ledger.pending.put address pending }

/-- The id of the next transaction. -/
def nextTx : LedgerAction TxId :=
  modifyGet fun ledger =>
    ("tx-" ++ toString (ledger.transactions + 1),
      { ledger with transactions := ledger.transactions + 1 })

/-- **Hands in a transaction** on the exchange lane; it takes the next
script, if there is one. -/
def submitX : LedgerAction TxId := do
  let tx ← nextTx
  modify fun ledger =>
    match ledger.xScripts with
    | script :: rest => { ledger with xScripts := rest, xStates := ledger.xStates.put tx script }
    | [] => ledger
  return tx

/-- **Hands in a transaction** on the platform lane. -/
def submitP : LedgerAction TxId := do
  let tx ← nextTx
  modify fun ledger =>
    match ledger.pScripts with
    | script :: rest => { ledger with pScripts := rest, pStates := ledger.pStates.put tx script }
    | [] => ledger
  return tx

/-- Counts a question about a transaction. -/
def countPoll (tx : TxId) : LedgerAction Unit :=
  modify fun ledger => { ledger with polls := ledger.polls.put tx (ledger.polls.getD tx 0 + 1) }

/-! ## The calls -/

def createUser (user : User) : LedgerAction Unit := do
  if user.name ∈ (← get).users then refuse "keystore.createUser" "user already exists"
  else modify fun ledger => { ledger with users := ledger.users ++ [user.name] }

def xCreateAddress (user : User) : LedgerAction String := do
  checkUser user "avm.createAddress"
  modifyGet fun ledger =>
    let addresses := ledger.xAddresses.getD user.name []
    let address := newAddress .x user addresses
    (address, { ledger with
      xAddresses := ledger.xAddresses.put user.name (addresses ++ [address]) })

def pCreateAddress (user : User) : LedgerAction String := do
  checkUser user "platform.createAddress"
  modifyGet fun ledger =>
    let addresses := ledger.pAddresses.getD user.name []
    let address := newAddress .p user addresses
    (address, { ledger with
      pAddresses := ledger.pAddresses.put user.name (addresses ++ [address]) })

/-- The key of the funded account makes its address the user's first. -/
def xImportKey (user : User) (key : String) : LedgerAction String := do
  checkUser user "avm.importKey"
  if key = (← get).fundedKey then
    modifyGet fun ledger =>
      (ledger.fundedAddress, { ledger with
        xAddresses := ledger.xAddresses.put user.name
          (ledger.fundedAddress :: ledger.xAddresses.getD user.name []) })
  else refuse "avm.importKey" "unknown key"

def xSend (user : User) (amount : Amount) (recipient : String) : LedgerAction TxId := do
  let ledger ← get
  let source ← firstAddress ledger.xAddresses user "avm.send"
  adjustX source 0 (← checked (Amount.plus amount ledger.fee)) "avm.send"
  adjustX recipient amount 0 "avm.send"
  submitX

def xSendMultiple (user : User) (outputs : List SendOutput) : LedgerAction TxId := do
  let ledger ← get
  let source ← firstAddress ledger.xAddresses user "avm.sendMultiple"
  let total ← checked (Amount.total (outputs.map SendOutput.amount))
  adjustX source 0 (← checked (Amount.plus total ledger.fee)) "avm.sendMultiple"
  outputs.forM fun output => adjustX output.recipient output.amount 0 "avm.sendMultiple"
  submitX

def xExport (user : User) (amount : Amount) (recipient : String) : LedgerAction TxId := do
  let ledger ← get
  let source ← firstAddress ledger.xAddresses user "avm.exportAVAX"
  adjustX source 0 (← checked (Amount.plus amount ledger.fee)) "avm.exportAVAX"
  park recipient amount
  submitX

def xImport (user : User) (recipient : String) : LedgerAction TxId := do
  checkUser user "avm.importAVAX"
  adjustX recipient (← claim recipient "avm.importAVAX") 0 "avm.importAVAX"
  submitX

def xStatus (tx : TxId) : LedgerAction XStatus := do
  countPoll tx
  modifyGet fun ledger =>
    match ledger.xStates.get? tx with
    | some (status :: rest) => (status, { ledger with xStates := ledger.xStates.put tx rest })
    | _ => (.accepted, ledger)

def pImport (user : User) (recipient : String) : LedgerAction TxId := do
  checkUser user "platform.importAVAX"
  adjustP recipient (← claim recipient "platform.importAVAX") 0 "platform.importAVAX"
  submitP

def pExport (user : User) (recipient : String) (amount : Amount) : LedgerAction TxId := do
  let ledger ← get
  let source ← firstAddress ledger.pAddresses user "platform.exportAVAX"
  adjustP source 0 (← checked (Amount.plus amount ledger.fee)) "platform.exportAVAX"
  park recipient amount
  submitP

/-- Bonds a stake as a validator, who is listed unless validators are
hidden. -/
def addValidator (user : User) (request : StakeRequest) : LedgerAction TxId := do
  let source ← firstAddress (← get).pAddresses user "platform.addValidator"
  adjustP source 0 request.stake "platform.addValidator"
  modify fun ledger =>
    if ledger.hidesValidators then ledger
    else { ledger with validators := ledger.validators ++
      [⟨request.nodeId, some request.start, some request.finish, some request.stake⟩] }
  submitP

def addDelegator (user : User) (request : StakeRequest) : LedgerAction TxId := do
  let source ← firstAddress (← get).pAddresses user "platform.addDelegator"
  adjustP source 0 request.stake "platform.addDelegator"
  modify fun ledger => { ledger with delegations := ledger.delegations ++ [request] }
  submitP

def pStatus (tx : TxId) : LedgerAction PStatusReply := do
  countPoll tx
  modifyGet fun ledger =>
    match ledger.pStates.get? tx with
    | some (reply :: rest) => (reply, { ledger with pStates := ledger.pStates.put tx rest })
    | _ => (PStatusReply.ofStatus .committed, ledger)

def cImportKey (user : User) (key : String) : LedgerAction String := do
  checkUser user "avax.importKey"
  let ledger ← get
  if key = ledger.fundedKey then pure (Lane.c.address ledger.fundedAddress)
  else refuse "avax.importKey" "unknown key"

/-- Imports to the contract lane what was exported to the contract form of
the user's first exchange address. -/
def cImport (user : User) (recipient : String) : LedgerAction TxId := do
  let source ← firstAddress (← get).xAddresses user "avax.import"
  let amount ← claim (Lane.c.address source) "avax.import"
  modify fun ledger =>
    { ledger with c := ledger.c.put recipient (ledger.cBalance recipient + amount.toNat) }
  nextTx

/-! ## What a rehearsal changes directly -/

/-- Credits an exchange address out of nothing. -/
def mint (address : String) (amount : Amount) : LedgerAction Unit :=
  adjustX address amount 0 "mint"

def scriptX (ledger : Ledger) (states : List XStatus) : Ledger :=
  { ledger with xScripts := ledger.xScripts ++ [states] }

def scriptP (ledger : Ledger) (states : List PStatus) : Ledger :=
  { ledger with pScripts := ledger.pScripts ++ [states.map PStatusReply.ofStatus] }

def hideValidators (ledger : Ledger) : Ledger := { ledger with hidesValidators := true }

end Ledger

end LedgerNet
