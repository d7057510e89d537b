import LedgerNet.Api.Quantity
import LedgerNet.Api.Wire
import LedgerNet.Conventions
import LedgerNet.Net.Ip
import LedgerNet.Program.Action

/-!
# Talking to a node over HTTP

Each ledger of a node, and each of its services, has a path of its own. A
call is a JSON object that is posted there: a number that counts the
requests to that path, the name of the call, and its parameters. The answer
has a result or an error; where it has both, the error counts, and where it
has neither, the reply is empty.

A client is the address of a node and the numbers of its next requests. What
happens on the wire is asked of an interface of its own, so the client runs
against anything that answers a post.
-/

namespace LedgerNet

open Json

/-! ## Where calls go -/

/-- **A path of a node.** -/
inductive Endpoint where
  | info
  | keystore
  | x
  | p
  /-- The part of the contract lane that moves the native asset. -/
  | cAsset
  /-- The part of the contract lane that runs contracts. -/
  | cContract
  deriving DecidableEq, Repr

namespace Endpoint

def path : Endpoint → String
  | info => "/ext/info"
  | keystore => "/ext/keystore"
  | x => "/ext/bc/X"
  | p => "/ext/P"
  | cAsset => "/ext/bc/C/avax"
  | cContract => "/ext/bc/C/rpc"

/-- **An address and a path with one slash between them**, however many of
them end the one or begin the other. -/
def join (base path : String) : String :=
  String.ofList ((base.toList.reverse.dropWhile (· == '/')).reverse)
    ++ "/" ++ String.ofList (path.toList.dropWhile (· == '/'))

end Endpoint

/-- The address of the node on a machine. -/
def nodeUrl (ip : Ip) : String :=
  "http://" ++ ip.text ++ ":" ++ toString Conventions.httpPort

/-- **What is asked of a path**: a name, parameters, and how to read the
result. A result that can be read may still make no sense. -/
structure WireCall (α : Type) where
  endpoint : Endpoint
  method : String
  params : Json
  decoder : Decoder (Except ApiError α)

namespace WireCall

variable {α : Type}

/-- A result that always makes sense. -/
def plain (decoder : Decoder α) : Decoder (Except ApiError α) := fun depth value =>
  (decoder depth value).map .ok

/-- One field of an object that may have others. -/
def field (name : String) (decoder : Decoder α) : Decoder α := fun depth value => do
  match ← slots? [name] depth value with
  | ([slot], depth) => slot.required decoder depth
  | _ => none

/-- A call of a user, whose name and password come before the rest. -/
def userParams (user : User) (params : List (String × Json)) : Json :=
  .ofMembers (user.members ++ params)

/-- The parameters of a stake. -/
def stakeParams (request : StakeRequest) : List (String × Json) :=
  [ ("nodeID", .text request.nodeId),
    ("rewardAddress", .text request.rewardAddress),
    ("stakeAmount", Amount.toJson request.stake),
    ("startTime", .text (toString request.start)),
    ("endTime", .text (toString request.finish)) ]

def address (endpoint : Endpoint) (method : String) (params : Json) : WireCall String :=
  ⟨endpoint, method, params, plain (field "address" Decoder.string)⟩

def transaction (endpoint : Endpoint) (method : String) (params : Json) : WireCall TxId :=
  ⟨endpoint, method, params, plain (field "txID" Decoder.string)⟩

def balance (endpoint : Endpoint) (method : String) (params : Json) : WireCall Amount :=
  ⟨endpoint, method, params, plain (field "balance" Decoder.numeral)⟩

/-- An import: where to, and from which lane. -/
def importParams (user : User) (recipient source : String) : Json :=
  userParams user [("to", .text recipient), ("sourceChain", .text source)]

/-- A quantity, or that the text is none. -/
def quantity (method : String) : Decoder (Except ApiError Nat) := fun depth value => do
  let text ← Decoder.string depth value
  return match Quantity.ofText? text with
    | some n => .ok n
    | none => .error (.malformed method "quantity" text)

/-- Whether something was done; if not, the reply makes no sense. -/
def success (method : String) : Decoder (Except ApiError Unit) := fun depth value => do
  return if ← field "success" Decoder.truth depth value then .ok ()
    else .error (.malformed method "success" "false")

/-- The peers of a node; a node without any may leave them out. -/
def peerList : Decoder (List ConnectedPeer) := fun depth value => do
  match ← slots? ["peers"] depth value with
  | ([peers], depth) =>
    return (← peers.defaulted (Decoder.list ConnectedPeer.decoder) depth).getD []
  | _ => none

end WireCall

open WireCall in
/-- **Each call on the wire.** -/
def Call.onWire : (call : Call) → WireCall call.Result
  | .nodeId => ⟨.info, "info.getNodeID", .object [], plain (field "nodeID" Decoder.string)⟩
  | .isBootstrapped lane =>
    ⟨.info, "info.isBootstrapped", .ofMembers [("chain", .text lane.letter)],
      plain (field "isBootstrapped" Decoder.truth)⟩
  | .peers => ⟨.info, "info.peers", .object [], plain peerList⟩
  | .createUser user =>
    ⟨.keystore, "keystore.createUser", user.toJson, success "keystore.createUser"⟩
  | .xCreateAddress user => address .x "avm.createAddress" user.toJson
  | .xImportKey user key =>
    address .x "avm.importKey" (userParams user [("privateKey", .text key)])
  | .xSend user amount asset recipient =>
    transaction .x "avm.send" (userParams user
      [("amount", Amount.toJson amount), ("assetID", .text asset), ("to", .text recipient),
        ("memo", .text "")])
  | .xSendMultiple user outputs =>
    transaction .x "avm.sendMultiple" (userParams user
      [("outputs", .array (outputs.map SendOutput.toJson)), ("memo", .text "")])
  | .xExport user amount recipient =>
    transaction .x "avm.exportAVAX" (userParams user
      [("amount", Amount.toJson amount), ("to", .text recipient)])
  | .xImport user recipient source =>
    transaction .x "avm.importAVAX" (importParams user recipient source)
  | .xStatus tx =>
    ⟨.x, "avm.getTxStatus", .ofMembers [("txID", .text tx)],
      plain (field "status" XStatus.decoder)⟩
  | .xBalance holder asset =>
    balance .x "avm.getBalance" (.ofMembers [("address", .text holder), ("assetID", .text asset)])
  | .pCreateAddress user => address .p "platform.createAddress" user.toJson
  | .pImport user recipient source =>
    transaction .p "platform.importAVAX" (importParams user recipient source)
  | .pExport user recipient amount =>
    transaction .p "platform.exportAVAX" (userParams user
      [("to", .text recipient), ("amount", Amount.toJson amount)])
  | .addValidator user request feeRate =>
    transaction .p "platform.addValidator" (userParams user
      (stakeParams request ++ [("delegationFeeRate", .text feeRate.text)]))
  | .addDelegator user request =>
    transaction .p "platform.addDelegator" (userParams user (stakeParams request))
  | .pStatus tx =>
    ⟨.p, "platform.getTxStatus",
      .ofMembers [("txID", .text tx), ("includeReason", .bool true)],
      plain PStatusReply.decoder⟩
  | .pBalance holder =>
    balance .p "platform.getBalance" (.ofMembers [("address", .text holder)])
  | .validators =>
    ⟨.p, "platform.getCurrentValidators", .object [],
      plain (field "validators" (Decoder.list Validator.decoder))⟩
  | .cImportKey user key =>
    address .cAsset "avax.importKey" (userParams user [("privateKey", .text key)])
  | .cImport user recipient source =>
    transaction .cAsset "avax.import" (importParams user recipient source)
  | .cBalance holder =>
    ⟨.cContract, "eth_getBalance", .array [.text holder, .text "latest"],
      quantity "eth_getBalance"⟩

/-! ## Requests and replies -/

/-- **A post**: where to, and the JSON that is sent. -/
structure HttpPost where
  url : String
  body : Json

/-- **What a server sends back.** -/
structure HttpReply where
  status : Nat
  body : String
  deriving DecidableEq, Repr

/-- Posting, as an interface; a post may stay unanswered. -/
abbrev Http : Interface.{0} := ⟨HttpPost, fun _ => Option HttpReply⟩

/-- **A client of one node.** -/
structure HttpClient where
  /-- The address of the node. -/
  base : String
  /-- How many requests went to each path. -/
  sent : Endpoint → Nat

/-- A client that has not been used. -/
def HttpClient.ofBase (base : String) : HttpClient := ⟨base, fun _ => 0⟩

/-- What a node says when it refuses a call. -/
structure RpcRefusal where
  code : Int
  message : String

def RpcRefusal.decoder : Decoder RpcRefusal := fun depth value => do
  match ← slots? ["code", "message"] depth value with
  | ([code, message], depth) =>
    return {
      code := ← code.required Decoder.integer depth
      message := ← message.required Decoder.string depth }
  | _ => none

/-- The body of a reply: a result, a refusal, both or neither. -/
def replyDecoder {α : Type} (decoder : Decoder α) : Decoder (Option α × Option RpcRefusal) :=
  fun depth value => do
    match ← slots? ["result", "error"] depth value with
    | ([result, refusal], depth) =>
      return (← result.optional decoder depth, ← refusal.optional RpcRefusal.decoder depth)
    | _ => none

namespace HttpReply

/-- Whether a status tells of an error. -/
def isFailure (reply : HttpReply) : Bool := 400 ≤ reply.status && reply.status < 600

end HttpReply

namespace WireCall

variable {α : Type}

/-- **What a call comes to**, given what came back. -/
def outcome (call : WireCall α) (url : String) : Option HttpReply → Except ApiError α
  | none => .error (.transport (.unanswered url))
  | some reply =>
    if reply.isFailure then .error (.transport (.status url reply.status))
    else
      match (replyDecoder call.decoder).run reply.body with
      | none => .error (.transport .undecodable)
      | some (_, some refusal) => .error (.rpc call.method refusal.code refusal.message)
      | some (some result, none) => result
      | some (none, none) => .error (.emptyReply call.method)

/-- The body of a request. -/
def body (call : WireCall α) (id : Nat) : Json :=
  .ofMembers [("jsonrpc", .text "2.0"), ("id", .ofNat id), ("method", .text call.method),
    ("params", call.params)]

/-- **Makes a call**: one request, whatever becomes of it. -/
def send (call : WireCall α) : Action HttpClient Http ApiError α := do
  let client ← Action.state
  let id := client.sent call.endpoint + 1
  Action.change fun client =>
    { client with sent := fun e => if e = call.endpoint then id else client.sent e }
  let url := Endpoint.join client.base call.endpoint.path
  let reply ← Action.request (Proc.request (I := Http) ⟨url, call.body id⟩)
  Action.ofExcept (call.outcome url reply)

end WireCall

end LedgerNet
