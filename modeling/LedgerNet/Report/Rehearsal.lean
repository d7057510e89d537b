import LedgerNet.Rehearsal.ContractLine
import LedgerNet.Rehearsal.LocalNetwork
import LedgerNet.Rehearsal.ScriptedRunner
import LedgerNet.Rehearsal.Sources
import LedgerNet.Report

/-!
# What is told of a rehearsal

The calls that nodes were asked, what happened to services, and what is
known of nodes and participants.
-/

namespace LedgerNet.Report

/-- Calls in their order. -/
def callsJson (calls : List Call) : Json := .array (calls.map Call.note)

/-- Calls by the name under which they were noted. -/
def callBookJson (book : List (String × List Call)) : Json :=
  obj (book.map fun (name, calls) => (name, callsJson calls))

/-- The calls of a session, or null where there were none. -/
def callsOrNull {ι σ : Type} (sessions : Sessions ι σ) : Json :=
  match sessions.notes.reverse.map (·.2) with
  | [] => .null
  | calls => callsJson calls

def recordJson (record : ReadinessRecord) : Json :=
  obj [("P", .bool record.p), ("C", .bool record.c), ("X", .bool record.x),
    ("ready", .bool record.isReady)]

def serviceEventJson : ServiceEvent → Json
  | .started spec command =>
    .array [txt "start", txt spec.id, txt spec.image,
      txts ((spec.files.map (·.1)).mergeSort fun a b => decide (a ≤ b)), txts command]
  | .startFailed id => txts ["start_failed", id]
  | .stopped id grace => .array [txt "stop", txt id, ms grace]

/-- A running node by its id and its address. -/
def trackedMembers {κ : Type} (node : TrackedNode κ) : Members :=
  [("id", txt node.id), ("ip", txt node.ip.text), ("debug", txt node.debug)]

def participantMembers {κ : Type} (node : Participant κ) : Members :=
  [("id", txt node.id), ("ip", txt node.ip.text), ("node_id", txt node.nodeId),
    ("x", txt node.xAddress), ("p", txt node.pAddress),
    ("user", txts [node.user.name, node.user.password]), ("debug", txt node.debug)]

def localServiceJson (service : LocalService) : Json :=
  obj [("ip", txt service.ip.text), ("image", txt service.image),
    ("command", txts service.command)]

/-- The services of a network in memory, and what is defined of it. -/
def localServicesMembers (network : LocalNetwork) (d : Definition) : Members :=
  [("start_calls", .ofNat network.startCalls), ("start_order", txts network.startOrder),
    ("stopped", txts network.stopped), ("defined", idsJson d.nodes)]

/-- A call of the contract lane in short. -/
def contractCallJson : ContractCall → Json
  | .balance address => txts ["balance", address]
  | .blockNumber => txts ["block"]
  | .send raw => .array [txt "send", .array (raw.map fun byte => .ofNat byte.toNat)]
  | .receipt hash => txts ["receipt", hash]

def lineEventJson : LineEvent → Json
  | .entered call => .array [txt "enter", contractCallJson call]
  | .left call => .array [txt "leave", contractCallJson call]

/-- A reply of the contract lane; a receipt may be missing. -/
def contractReplyJson : ContractReply → Json
  | .balance amount => num amount
  | .blockNumber number => num number
  | .sent hash => txt hash
  | .receipt value => obj [("receipt", value.getD .null)]

end LedgerNet.Report
