import LedgerNet.Api.Http
import LedgerNet.Program.Timed

/-!
# The contract lane

The contract lane is asked for balances, for the number of its last block
and for receipts, and it takes transactions that are signed already. Its
transport carries one call at a time; calls that are made together are
carried in the order in which they were made, each from its beginning to its
end.
-/

namespace LedgerNet

open Json

/-- **A call of the contract lane.** -/
inductive ContractCall where
  | balance (address : String)
  | blockNumber
  | send (raw : List UInt8)
  | receipt (hash : String)
  deriving DecidableEq, Repr

/-- **What the contract lane answers.** -/
inductive ContractReply where
  | balance (amount : Nat)
  | blockNumber (number : Nat)
  /-- The hash of the transaction. -/
  | sent (hash : String)
  /-- None as long as the transaction is in no block. -/
  | receipt (value : Option Json)

namespace ContractCall

/-- A number of a block fits 64 bits. -/
def blockReply (number : Nat) : Except ApiError ContractReply :=
  if number < 2 ^ 64 then .ok (.blockNumber number)
  else .error (.malformed "eth_blockNumber" "blockNumber" (toString number))

/-- A quantity that becomes a reply. -/
def quantityReply (method : String) (reply : Nat → Except ApiError ContractReply) :
    Decoder (Except ApiError ContractReply) := fun depth value =>
  (WireCall.quantity method depth value).map fun result => result.bind reply

/-- **Each call on the wire.** -/
def onWire : ContractCall → WireCall ContractReply
  | balance address =>
    ⟨.cContract, "eth_getBalance", .array [.text address, .text "latest"],
      quantityReply "eth_getBalance" fun n => .ok (.balance n)⟩
  | blockNumber =>
    ⟨.cContract, "eth_blockNumber", .array [], quantityReply "eth_blockNumber" blockReply⟩
  | send raw =>
    ⟨.cContract, "eth_sendRawTransaction", .array [.text ("0x" ++ Text.hexBytes raw)],
      WireCall.plain fun depth value => (Decoder.string depth value).map .sent⟩
  | receipt hash =>
    ⟨.cContract, "eth_getTransactionReceipt", .array [.text hash],
      WireCall.plain fun depth value => (anyValue depth value).map fun v => .receipt (some v)⟩

/-- A reply without a receipt tells that there is none yet. -/
def settle : ContractCall → Except ApiError ContractReply → Except ApiError ContractReply
  | receipt _, .error (.emptyReply _) => .ok (.receipt none)
  | _, result => result

end ContractCall

/-- A transport of the contract lane, as an interface. -/
abbrev ContractTransport : Interface.{0} :=
  ⟨ContractCall, fun _ => Except ApiError ContractReply⟩

/-- **Calls that were made together**, one at a time. -/
def ContractCall.inTurn :
    List ContractCall → Proc (Timed ContractTransport) (List (Except ApiError ContractReply))
  | [] => pure []
  | call :: rest => do
    let reply ← Proc.ask (TimedOp.query (Q := ContractTransport) call) Proc.done
    return reply :: (← inTurn rest)

end LedgerNet
