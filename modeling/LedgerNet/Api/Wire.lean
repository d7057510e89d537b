import LedgerNet.Api.Call
import LedgerNet.Definition.Node
import LedgerNet.Json.Decode
import LedgerNet.Json.Printer

/-!
# Values on the wire

How the values of calls and of definitions look in JSON. Amounts are strings,
since not every reader of JSON keeps 64 bits; ids keep the capitals that
nodes give them; and a status that nobody knows reads as unknown.
-/

namespace LedgerNet

open Json

/-! ## Writing -/

def Lane.toJson (lane : Lane) : Json := .text lane.letter

def ChainIds.toJson (ids : ChainIds) : Json :=
  .ofMembers [
    ("network_id", .ofNat ids.networkId.toNat),
    ("x_chain_id", .text ids.x),
    ("p_chain_id", .text ids.p),
    ("c_chain_id", .text ids.c),
    ("native_asset_id", .text ids.assetId),
    ("native_asset_alias", .text ids.assetAlias)]

def Credentials.toJson (credentials : Credentials) : Json :=
  .ofMembers [
    ("node_id", .text credentials.nodeId),
    ("tls_cert", .text credentials.cert),
    ("tls_key", .text credentials.key)]

def Role.toJson : Role → Json
  | bootstrap ordinal =>
    .ofMembers [("Bootstrap", .ofMembers [("ordinal", .ofNat ordinal)])]
  | regular => .text "Regular"

def User.members (user : User) : List (String × Json) :=
  [("username", .text user.name), ("password", .text user.password)]

def User.toJson (user : User) : Json := .ofMembers user.members

/-- An amount is a string of its digits. -/
def Amount.toJson (amount : Amount) : Json := .text (toString amount)

def SendOutput.toJson (output : SendOutput) : Json :=
  .ofMembers [
    ("assetID", .text output.asset),
    ("amount", Amount.toJson output.amount),
    ("to", .text output.recipient)]

/-! ## Reading -/

def Lane.decoder : Decoder Lane := fun depth value =>
  (Decoder.variantName depth value).bind Lane.ofLetter?

def ChainIds.decoder : Decoder ChainIds := fun depth value => do
  let names := ["network_id", "x_chain_id", "p_chain_id", "c_chain_id", "native_asset_id",
    "native_asset_alias"]
  match ← slots? names depth value with
  | ([network, x, p, c, assetId, assetAlias], depth) =>
    return {
      networkId := UInt32.ofNat (← network.required (Decoder.natural (2 ^ 32)) depth)
      x := ← x.required Decoder.string depth
      p := ← p.required Decoder.string depth
      c := ← c.required Decoder.string depth
      assetId := ← assetId.required Decoder.string depth
      assetAlias := ← assetAlias.required Decoder.string depth }
  | _ => none

def Credentials.decoder : Decoder Credentials := fun depth value => do
  match ← slots? ["node_id", "tls_cert", "tls_key"] depth value with
  | ([nodeId, cert, key], depth) =>
    return {
      nodeId := ← nodeId.required Decoder.string depth
      cert := ← cert.required Decoder.string depth
      key := ← key.required Decoder.string depth }
  | _ => none

/-- The position that a bootstrap role asks for. -/
def Role.ordinalDecoder : Decoder Nat := fun depth value => do
  match ← slots? ["ordinal"] depth value with
  | ([ordinal], depth) => ordinal.required (Decoder.natural (2 ^ 64)) depth
  | _ => none

def Role.decoder : Decoder Role
  | _, .text "Regular" => some .regular
  | depth, .object [(some "Regular", .null)] => (deeper? depth).map fun _ => .regular
  | depth, .object [(some "Bootstrap", contents)] => do
    let depth ← deeper? depth
    return .bootstrap (← Role.ordinalDecoder depth contents)
  | _, _ => none

def User.decoder : Decoder User := fun depth value => do
  match ← slots? ["username", "password"] depth value with
  | ([name, password], depth) =>
    return {
      name := ← name.required Decoder.string depth
      password := ← password.required Decoder.string depth }
  | _ => none

def XStatus.decoder : Decoder XStatus := fun depth value =>
  (Decoder.variantName depth value).map XStatus.ofName

def PStatus.decoder : Decoder PStatus := fun depth value =>
  (Decoder.variantName depth value).map PStatus.ofName

def PStatusReply.decoder : Decoder PStatusReply := fun depth value => do
  match ← slots? ["status", "reason"] depth value with
  | ([status, reason], depth) =>
    return {
      status := ← status.required PStatus.decoder depth
      reason := ← reason.defaulted Decoder.string depth }
  | _ => none

def ConnectedPeer.decoder : Decoder ConnectedPeer := fun depth value => do
  match ← slots? ["ip", "nodeID"] depth value with
  | ([socket, nodeId], depth) =>
    return {
      socket := ← socket.required Decoder.string depth
      nodeId := ← nodeId.required Decoder.string depth }
  | _ => none

def Validator.decoder : Decoder Validator := fun depth value => do
  match ← slots? ["nodeID", "startTime", "endTime", "stakeAmount"] depth value with
  | ([nodeId, start, finish, stake], depth) =>
    return {
      nodeId := ← nodeId.required Decoder.string depth
      start := (← start.defaulted Decoder.numeral depth).map UInt64.toNat
      finish := (← finish.defaulted Decoder.numeral depth).map UInt64.toNat
      stake := ← stake.defaulted Decoder.numeral depth }
  | _ => none

end LedgerNet
