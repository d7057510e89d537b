import LedgerNet.Api.Error
import LedgerNet.Api.Status
import LedgerNet.Lane
import LedgerNet.Number.Checked
import LedgerNet.Number.Rate
import LedgerNet.Program.Failure
import LedgerNet.Text.Quoted

/-!
# The calls of a node

Everything that a run asks of a node, as one type. A call says what is
wanted and fixes the type of its result, so that a program which makes the
call cannot expect anything else. Each lane has its own spelling of what is
the same operation: the exchange lane takes an amount before an address
where the platform lane takes it after, and the contract lane counts in
units so small that its balances need 128 bits.
-/

namespace LedgerNet

/-- The id of a transaction that was handed in. -/
abbrev TxId := String

/-- **The keystore user** that owns addresses on a node. -/
structure User where
  name : String
  password : String
  deriving DecidableEq, Repr

/-- What is shown of a user; the password stays out of logs. -/
def User.debug (user : User) : String :=
  "UserPass \x7b username: " ++ Text.quote user.name ++ ", .. \x7d"

/-- **One output of a payment** to several. -/
structure SendOutput where
  asset : String
  amount : Amount
  recipient : String
  deriving DecidableEq, Repr

/-- **A stake**: who validates, who is rewarded, how much is bonded, and
from when to when in seconds since the epoch. -/
structure StakeRequest where
  nodeId : String
  rewardAddress : String
  stake : Amount
  start : Nat
  finish : Nat
  deriving DecidableEq, Repr

/-- **A validator** as a node reports it. -/
structure Validator where
  nodeId : String
  start : Option Nat
  finish : Option Nat
  stake : Option Amount
  deriving DecidableEq, Repr

/-- **A peer** that a node is connected to. -/
structure ConnectedPeer where
  /-- The address and the port it is reached at. -/
  socket : String
  nodeId : String
  deriving DecidableEq, Repr

/-- **The part of a socket before its last colon**, or all of it where there
is none. -/
def ConnectedPeer.host (peer : ConnectedPeer) : String :=
  let cs := peer.socket.toList
  if ':' ∈ cs then
    String.ofList ((cs.reverse.dropWhile (· != ':')).drop 1).reverse
  else peer.socket

/-- **A call to a node.** -/
inductive Call where
  | nodeId
  | isBootstrapped (lane : Lane)
  | peers
  | createUser (user : User)
  | xCreateAddress (user : User)
  | xImportKey (user : User) (key : String)
  | xSend (user : User) (amount : Amount) (asset recipient : String)
  | xSendMultiple (user : User) (outputs : List SendOutput)
  | xExport (user : User) (amount : Amount) (recipient : String)
  | xImport (user : User) (recipient source : String)
  | xStatus (tx : TxId)
  | xBalance (address asset : String)
  | pCreateAddress (user : User)
  | pImport (user : User) (recipient source : String)
  | pExport (user : User) (recipient : String) (amount : Amount)
  | addValidator (user : User) (request : StakeRequest) (feeRate : Rate)
  | addDelegator (user : User) (request : StakeRequest)
  | pStatus (tx : TxId)
  | pBalance (address : String)
  | validators
  | cImportKey (user : User) (key : String)
  | cImport (user : User) (recipient source : String)
  | cBalance (address : String)
  deriving DecidableEq, Repr

namespace Call

/-- **The result of a call.** -/
@[reducible] def Result : Call → Type
  | nodeId => String
  | isBootstrapped _ => Bool
  | peers => List ConnectedPeer
  | createUser _ => Unit
  | xCreateAddress _ => String
  | xImportKey _ _ => String
  | xSend _ _ _ _ => TxId
  | xSendMultiple _ _ => TxId
  | xExport _ _ _ => TxId
  | xImport _ _ _ => TxId
  | xStatus _ => XStatus
  | xBalance _ _ => Amount
  | pCreateAddress _ => String
  | pImport _ _ _ => TxId
  | pExport _ _ _ => TxId
  | addValidator _ _ _ => TxId
  | addDelegator _ _ => TxId
  | pStatus _ => PStatusReply
  | pBalance _ => Amount
  | validators => List Validator
  | cImportKey _ _ => String
  | cImport _ _ _ => TxId
  | cBalance _ => Nat

/-- The name of a call on the wire. -/
def method : Call → String
  | nodeId => "info.getNodeID"
  | isBootstrapped _ => "info.isBootstrapped"
  | peers => "info.peers"
  | createUser _ => "keystore.createUser"
  | xCreateAddress _ => "avm.createAddress"
  | xImportKey _ _ => "avm.importKey"
  | xSend _ _ _ _ => "avm.send"
  | xSendMultiple _ _ => "avm.sendMultiple"
  | xExport _ _ _ => "avm.exportAVAX"
  | xImport _ _ _ => "avm.importAVAX"
  | xStatus _ => "avm.getTxStatus"
  | xBalance _ _ => "avm.getBalance"
  | pCreateAddress _ => "platform.createAddress"
  | pImport _ _ _ => "platform.importAVAX"
  | pExport _ _ _ => "platform.exportAVAX"
  | addValidator _ _ _ => "platform.addValidator"
  | addDelegator _ _ => "platform.addDelegator"
  | pStatus _ => "platform.getTxStatus"
  | pBalance _ => "platform.getBalance"
  | validators => "platform.getCurrentValidators"
  | cImportKey _ _ => "avax.importKey"
  | cImport _ _ _ => "avax.import"
  | cBalance _ => "eth_getBalance"

end Call

end LedgerNet
