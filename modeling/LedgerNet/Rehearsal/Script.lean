import LedgerNet.Json.Basic
import LedgerNet.Program.Timed
import LedgerNet.Rehearsal.Book
import LedgerNet.Text.Numeral

/-!
# Nodes that follow a script

A node can be made to answer as a script says: replies wait in queues, and
where a queue is used up there may be a reply that stands in for all later
ones. Queues are named after the call, or after the call and its argument,
and the narrower one is looked at first. A reply may also hand the call on
to a node behind the script.

Every call is noted before it is answered, so the record of a session is the
conversation as the node saw it.
-/

namespace LedgerNet

/-! ## How calls are noted -/

/-- A user in a note: name and password. -/
def User.note (user : User) : Json := .text (user.name ++ "/" ++ user.password)

/-- A number in a note. -/
def noteNumber (n : Nat) : Json := .text (toString n)

/-- An output in a note, in the form it has on the wire. -/
def SendOutput.note (output : SendOutput) : Json :=
  .ofMembers [("assetID", .text output.asset), ("amount", noteNumber output.amount.toNat),
    ("to", .text output.recipient)]

/-- A stake in a note: who, who is rewarded, how much and for how long. -/
def StakeRequest.note (request : StakeRequest) : Json :=
  .array [.text request.nodeId, .text request.rewardAddress, noteNumber request.stake.toNat,
    noteNumber (request.finish - request.start)]

namespace Call

/-- The arguments of a call as they are noted. -/
def noteArguments : Call → List Json
  | nodeId | peers | validators => []
  | isBootstrapped lane => [.text lane.letter]
  | createUser user | xCreateAddress user | pCreateAddress user => [user.note]
  | xImportKey user key | cImportKey user key => [user.note, .text key]
  | xSend user amount asset recipient =>
    [user.note, noteNumber amount.toNat, .text asset, .text recipient]
  | xSendMultiple user outputs => [user.note, .array (outputs.map SendOutput.note)]
  | xExport user amount recipient => [user.note, noteNumber amount.toNat, .text recipient]
  | pExport user recipient amount => [user.note, .text recipient, noteNumber amount.toNat]
  | xImport user recipient source | pImport user recipient source | cImport user recipient source =>
    [user.note, .text recipient, .text source]
  | xStatus tx | pStatus tx => [.text tx]
  | xBalance address asset => [.text address, .text asset]
  | pBalance address | cBalance address => [.text address]
  | addValidator user request rate => [user.note, request.note, .text rate.text]
  | addDelegator user request => [user.note, request.note]

/-- **A call as it is noted**: its name and its arguments. -/
def note (call : Call) : Json := .array (.text call.method :: call.noteArguments)

/-- The argument by which queues tell calls of one name apart. -/
def distinction? : Call → Option String
  | isBootstrapped lane => some lane.letter
  | xSend _ _ _ recipient | xExport _ _ recipient | pExport _ recipient _
  | xImport _ recipient _ | pImport _ recipient _ | cImport _ recipient _ => some recipient
  | xStatus tx | pStatus tx => some tx
  | xBalance address _ | pBalance address | cBalance address => some address
  | _ => none

/-- **The queues that may answer a call**, the narrowest first. -/
def queueNames (call : Call) : List String :=
  match call.distinction? with
  | some argument => [call.method ++ ":" ++ argument, call.method]
  | none => [call.method]

end Call

/-! ## Replies -/

/-- **A reply of a script.** -/
inductive ScriptedReply where
  /-- Whatever the node behind the script answers. -/
  | pass
  | fail (cause : ApiError)
  /-- The call crashes with this text. -/
  | breakDown (text : String)
  | value (value : Json)

namespace ScriptedReply

/-- A text, or the empty one where the script has something else. -/
def textOf : Json → String
  | .text s => s
  | _ => ""

/-- A number written as a text. -/
def numberOf (bound : Nat) (value : Json) : Nat :=
  (Text.unsigned? 10 bound (textOf value).toList).getD 0

def itemsOf : Json → List Json
  | .array items => items
  | _ => []

/-- A state of the platform lane, alone or with a reason. -/
def pStatusOf : Json → PStatusReply
  | .array (name :: reason :: _) =>
    ⟨PStatus.ofName (textOf name), match reason with | .text s => some s | _ => none⟩
  | .array [name] => .ofStatus (PStatus.ofName (textOf name))
  | status => .ofStatus (PStatus.ofName (textOf status))

def peerOf : Json → ConnectedPeer
  | .array (socket :: nodeId :: _) => ⟨textOf socket, textOf nodeId⟩
  | _ => ⟨"", ""⟩

/-- **The result of a call** that a script gives. -/
def resultOf (value : Json) : (call : Call) → call.Result
  | .nodeId => textOf value
  | .isBootstrapped _ => match value with | .bool b => b | _ => false
  | .peers => (itemsOf value).map peerOf
  | .createUser _ => ()
  | .xCreateAddress _ | .pCreateAddress _ | .xImportKey _ _ | .cImportKey _ _ => textOf value
  | .xSend _ _ _ _ | .xSendMultiple _ _ | .xExport _ _ _ | .xImport _ _ _ | .pImport _ _ _
  | .pExport _ _ _ | .addValidator _ _ _ | .addDelegator _ _ | .cImport _ _ _ => textOf value
  | .xStatus _ => XStatus.ofName (textOf value)
  | .pStatus _ => pStatusOf value
  | .xBalance _ _ | .pBalance _ => UInt64.ofNat (numberOf (2 ^ 64) value)
  | .validators => (itemsOf value).map fun item => ⟨textOf item, none, none, none⟩
  | .cBalance _ => numberOf (2 ^ 128) value

end ScriptedReply

/-- **A script**: queues of replies, and the replies that stand in when the
queues are used up. -/
structure Script where
  queues : Book (List ScriptedReply)
  fallback : Book ScriptedReply
  deriving Inhabited

namespace Script

/-- Nothing is scripted. -/
def blank : Script := ⟨.empty, .empty⟩

/-- Every question for a lane is answered with yes. -/
def alwaysBootstrapped : Script :=
  ⟨.empty, Book.empty.put "info.isBootstrapped" (.value (.bool true))⟩

/-- The first queue, of some, that is not used up: its reply, and the script
without it. -/
def takeQueued? (script : Script) : List String → Option (ScriptedReply × Script)
  | [] => none
  | name :: rest =>
    match script.queues.get? name with
    | some (reply :: later) => some (reply, { script with queues := script.queues.put name later })
    | _ => script.takeQueued? rest

/-- **The reply to a call**, if the script has one. -/
def take (script : Script) (call : Call) : Option ScriptedReply × Script :=
  match script.takeQueued? call.queueNames with
  | some (reply, script) => (some reply, script)
  | none => (call.queueNames.findSome? script.fallback.get?, script)

end Script

/-! ## Sessions -/

/-- **A session with a node**, as a client that was bound to it. A session
without a script is with the node itself, and nothing of it is noted. -/
structure Session (ι : Type) where
  /-- The name under which its calls are noted. -/
  name : String
  script : Option Script
  /-- The client of the node behind the script. -/
  behind : Option ι

/-- **The sessions of a run** and the notes that were taken, the last one
first, over a world of nodes behind the scripts. -/
structure Sessions (ι σ : Type) where
  world : σ
  bound : Array (Session ι)
  notes : List (String × Call)

namespace Sessions

variable {ι σ : Type}

def ofWorld (world : σ) : Sessions ι σ := ⟨world, #[], []⟩

/-- Opens a session; its number is the client. -/
def connect (sessions : Sessions ι σ) (session : Session ι) : Nat × Sessions ι σ :=
  (sessions.bound.size, { sessions with bound := sessions.bound.push session })

/-- The node behind a session. -/
def askBehind (answer : Proc.Handler (Clients ι) σ) (behind : Option ι) (call : Call)
    (sessions : Sessions ι σ) : Outcome ApiError call.Result × Sessions ι σ :=
  match behind with
  | some client =>
    let answered := answer (client, call) sessions.world
    (answered.1, { sessions with world := answered.2 })
  | none => (Outcome.failed (.unsupported call.method), sessions)

/-- **How sessions answer.** -/
def answer (world : Proc.Handler (Clients ι) σ) : Proc.Handler (Clients Nat) (Sessions ι σ) :=
  fun (client, call) sessions =>
    match sessions.bound[client]? with
    | none => (Outcome.failed (.unsupported call.method), sessions)
    | some session =>
      match session.script with
      | none => askBehind world session.behind call sessions
      | some script =>
        let (reply, script) := script.take call
        let sessions := { sessions with
          bound := sessions.bound.setIfInBounds client { session with script := some script }
          notes := (session.name, call) :: sessions.notes }
        match reply with
        | some (.value value) => (.ok (ScriptedReply.resultOf value call), sessions)
        | some (.fail cause) => (Outcome.failed cause, sessions)
        | some (.breakDown text) => (Outcome.crashed (.breakdown text), sessions)
        | some .pass | none => askBehind world session.behind call sessions

/-- The names under which something was noted, each with its calls in their
order. -/
def notesByName (sessions : Sessions ι σ) : List (String × List Call) :=
  let notes := sessions.notes.reverse
  let names := (notes.map (·.1)).eraseDups
  names.map fun name => (name, (notes.filter (·.1 == name)).map (·.2))

/-- The sessions with nothing noted. -/
def withoutNotes (sessions : Sessions ι σ) : Sessions ι σ := { sessions with notes := [] }

end Sessions

/-- There is no node behind the scripts. -/
def nobody : Proc.Handler (Clients Empty) Unit := fun (client, _) _ => nomatch client

end LedgerNet
