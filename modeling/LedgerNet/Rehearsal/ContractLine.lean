import LedgerNet.Api.Contract
import LedgerNet.Rehearsal.Script

/-!
# A slow line to the contract lane

A transport that takes the same time for every call and answers with planned
replies in a row. What enters and leaves it is noted, so its notes show
whether one call was ever carried beside another.
-/

namespace LedgerNet

/-- **What happened on a line.** -/
inductive LineEvent where
  | entered (call : ContractCall)
  | left (call : ContractCall)
  deriving DecidableEq, Repr

/-- **A line**: how long a call takes, the replies that are left, and what
happened, the last event first. -/
structure ContractLine where
  delay : Duration
  replies : List ScriptedReply
  events : List LineEvent

namespace ContractLine

/-- The reply to a call that a plan gives as a value. -/
def resultOf (value : Json) : ContractCall → ContractReply
  | .balance _ => .balance (ScriptedReply.numberOf (2 ^ 128) value)
  | .blockNumber => .blockNumber (ScriptedReply.numberOf (2 ^ 64) value)
  | .send _ => .sent (ScriptedReply.textOf value)
  | .receipt _ => .receipt (match value with | .null => none | _ => some value)

/-- **The next reply**; a line without any knows no calls. -/
def next (line : ContractLine) (call : ContractCall) :
    Except ApiError ContractReply × ContractLine :=
  match line.replies with
  | .value value :: replies => (.ok (resultOf value call), { line with replies })
  | .fail cause :: replies => (.error cause, { line with replies })
  | _ => (.error (.unsupported "transport"), line)

def note (line : ContractLine) (event : LineEvent) : ContractLine :=
  { line with events := event :: line.events }

/-- **Answers over the line**: every call takes its time before it leaves. -/
def handler : Proc.Handler (Timed ContractTransport) (Timeline ContractLine)
  | .query call, t =>
    let entered := { t with world := t.world.note (.entered call) }
    let there := entered.advancedTo (entered.wakeTime entered.world.delay)
    let answered := (there.world.note (.left call)).next call
    (answered.1, { there with world := answered.2 })
  | .sleep d, t => ((), t.advancedTo (t.wakeTime d))
  | .elapsed, t => (t.now, t)
  | .timeOfDay, t => (⟨t.epoch.nanos + t.now.nanos⟩, t)

end ContractLine

end LedgerNet
