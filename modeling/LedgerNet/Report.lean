import LedgerNet.Api.Wire
import LedgerNet.Container.Command
import LedgerNet.Container.Subnet
import LedgerNet.Genesis
import LedgerNet.Manifest
import LedgerNet.Staking.Error

/-!
# Reports

What a run found out is told in JSON. Amounts and durations are strings of
digits, since readers of JSON may keep fewer than 64 bits of a number, and
durations count whole milliseconds. An error is told by its name, its text
and the texts of what is behind it, outermost first; the name of an error
that passes through a layer has the name of that layer before it.
-/

namespace LedgerNet.Report

/-- The members of an object that is being put together. -/
abbrev Members := List (String × Json)

def obj : Members → Json := Json.ofMembers

def txt : String → Json := Json.text

/-- A number as a string of digits. -/
def num (n : Nat) : Json := .text (toString n)

def amt (a : Amount) : Json := num a.toNat

/-- A duration in whole milliseconds. -/
def ms (d : Duration) : Json := num d.millis

def txts : List String → Json := Json.ofTexts

/-- A value, or null. -/
def orNull {α : Type} (f : α → Json) : Option α → Json := Json.ofOption f

/-- **An error of any kind**: its name, its text and its causes. -/
structure Fault where
  kind : String
  message : String
  causes : List String

/-- The members that tell of an error. -/
def Fault.members (f : Fault) : Members :=
  [("error", txt f.kind), ("message", txt f.message)]
    ++ if f.causes.isEmpty then [] else [("causes", txts f.causes)]

/-- The error as one that passes through a layer. -/
def Fault.under (f : Fault) (outer : String) : Fault := { f with kind := outer ++ "/" ++ f.kind }

/-- The errors that can be told. -/
class HasFault (ε : Type) where
  fault : ε → Fault

instance : HasFault ApiError where
  fault e := ⟨match e with
    | .transport _ => "Request" | .rpc .. => "Rpc" | .emptyReply _ => "EmptyReply"
    | .malformed .. => "Malformed" | .unsupported _ => "Unsupported", e.message, []⟩

instance : HasFault DefinitionError where
  fault e := ⟨match e with
    | .duplicateNode _ => "DuplicateNode" | .invalidOrdinal .. => "InvalidBootstrapOrdinal"
    | .invalidConsensus .. => "InvalidConsensusSizes" | .emptyImage => "EmptyImage"
    | .emptyId => "EmptyNodeId", e.message, []⟩

instance : HasFault GenesisError where
  fault e := ⟨"ReadCredential", e.message, e.causes⟩

instance : HasFault ManifestError where
  fault e := match e with
    | .unreadable .. => ⟨"Read", e.message, e.causes⟩
    | .malformed => ⟨"Parse", e.message, e.causes⟩
    | .unknownStaker .. => ⟨"UnknownStaker", e.message, e.causes⟩
    | .definition cause => (HasFault.fault cause).under "Definition"

instance : HasFault ReadinessError where
  fault e := ⟨"Exhausted", e.message, []⟩

instance : HasFault AcceptanceError where
  fault e := ⟨match e with
    | .timeout .. => "Timeout" | .abandoned .. => "Abandoned" | .unsupported _ => "Unsupported",
    e.message, e.causes⟩

instance : HasFault BalanceError where
  fault e := ⟨match e with
    | .mismatch .. => "Mismatch" | .query .. => "Query" | .task .. => "Task", e.message, e.causes⟩

instance : HasFault AmountsError where
  fault e := ⟨"InvalidAmounts", e.message, []⟩

instance : HasFault SubnetError where
  fault e := ⟨match e with
    | .invalid _ => "Invalid" | .tooSmall _ => "TooSmall" | .exhausted _ => "Exhausted",
    e.message, []⟩

instance : HasFault CommandError where
  fault e := ⟨match e with
    | .notStarted .. => "Spawn" | .timeout .. => "Timeout" | .failed .. => "Failed",
    e.message, e.causes⟩

instance : HasFault FleetError where
  fault e := match e with
    | .configuration cause => (HasFault.fault cause).under "Configuration"
    | _ => ⟨match e with
      | .notFound _ => "NotFound" | .client .. => "Client" | .readiness .. => "Readiness"
      | .readinessTask .. => "ReadinessTask" | _ => "Lifecycle", e.message, e.causes⟩

instance : HasFault StakingError where
  fault e := match e with
    | .acceptance cause => (HasFault.fault cause).under "Acceptance"
    | .balance cause => (HasFault.fault cause).under "Balance"
    | .fleet cause => (HasFault.fault cause).under "Topology"
    | .configuration cause => (HasFault.fault cause).under "Configuration"
    | .amounts cause => HasFault.fault cause
    | _ => ⟨match e with
      | .api .. => "Api" | .validatorMissing .. => "ValidatorMissing"
      | .peerMismatch .. => "PeerMismatch" | .unknownNode _ => "UnknownNode"
      | _ => "MissingGenesis", e.message, e.causes⟩

def faultMembers {ε : Type} [HasFault ε] (e : ε) : Members := (HasFault.fault e).members

def crashMembers (c : Crash) : Members := [("error", txt "panic"), ("message", txt c.message)]

def failureMembers {ε : Type} [HasFault ε] : Failure ε → Members
  | .error e => faultMembers e
  | .crash c => crashMembers c

/-- The answer to something that may fail. -/
def result {ε α : Type} [HasFault ε] (f : α → Json) : Outcome ε α → Json
  | .ok a => f a
  | .error e => obj (failureMembers e)

def resultE {ε α : Type} [HasFault ε] (f : α → Json) : Except ε α → Json
  | .ok a => f a
  | .error e => obj (faultMembers e)

def resultC {α : Type} (f : α → Json) : Checked α → Json
  | .ok a => f a
  | .error e => obj (crashMembers (.overflow e))

/-- The members that tell of a call over the wire. What happened on the way
has no text of its own, only a class and, where there is one, a status. -/
def rpcMembers {α : Type} : Outcome ApiError α → Members
  | .ok _ => [("result", .null)]
  | .error (.error (.transport cause)) => ("error", txt "Request") :: match cause with
    | .status _ code => [("class", txt "status"), ("status", .ofNat code)]
    | .undecodable => [("class", txt "decode")]
    | .unanswered _ => [("class", txt "transport")]
  | .error failure => failureMembers failure

def peersJson (peers : List Peer) : Json :=
  .array (peers.map fun p => txts [p.node, p.identity])

def credentialsJson : Option Credentials → Json :=
  orNull fun c => txts [c.nodeId, c.cert, c.key]

def roleJson : Role → Json
  | .regular => txt "regular"
  | .bootstrap n => obj [("bootstrap", .ofNat n)]

def nodeMembers (node : NodeConfig) : Members :=
  [("id", txt node.id), ("image", orNull txt node.image), ("staking", .bool node.isStaking),
    ("credentials", credentialsJson node.credentials?), ("role", roleJson node.role),
    ("is_bootstrap", .bool node.isBootstrap), ("attempts", .ofNat node.bootstrapAttempts.toNat),
    ("log_level", txt node.logLevel), ("identity", txt node.identity),
    ("depends_on", peersJson node.dependsOn), ("bootstrap_ids", txt node.bootstrapIds)]

def nodeJson (node : NodeConfig) : Json := obj (nodeMembers node)

def idsJson (nodes : List NodeConfig) : Json := txts (nodes.map NodeConfig.id)

def stateJson (d : Definition) : Json :=
  obj [("nodes", idsJson d.nodes), ("bootstrap_nodes", idsJson d.bootstrapNodes),
    ("regular_nodes", idsJson d.regularNodes), ("chain", peersJson d.chain),
    ("bootstrap_ids", txt d.bootstrapIds), ("num_bootstrap", .ofNat d.chain.length),
    ("has_bootstrap", .bool !d.chain.isEmpty), ("len", .ofNat d.nodes.length),
    ("is_empty", .bool d.nodes.isEmpty)]

def paramsJson (p : NetworkParams) : Json :=
  obj [("image", txt p.image), ("tx_fee", amt p.txFee), ("sample", .ofNat p.sampleSize.toNat),
    ("quorum", .ofNat p.quorumSize.toNat)]

def definitionJson (d : Definition) : Json :=
  obj [("params", paramsJson d.params), ("state", stateJson d),
    ("configs", .array (d.nodes.map fun node =>
      obj (nodeMembers node ++ [("runs_image", txt (d.imageFor node))])))]

def acceptanceJson : AcceptanceState → Json
  | .pending => txt "pending"
  | .accepted => txt "accepted"
  | .abandoned reason => obj [("abandoned", txt reason)]

def fundedJson (g : Genesis) : Json := txts [g.funded.address, g.funded.privateKey]

end LedgerNet.Report
