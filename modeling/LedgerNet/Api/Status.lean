/-!
# Where a transaction stands

Each lane names the states of its transactions in its own way. A run needs
to know only whether a transaction is still pending, is accepted, or has
been abandoned, and why. A name that nobody knows counts as pending: it may
be a state that a newer node has between two that are known.
-/

namespace LedgerNet

/-- **The state of a transaction on the exchange lane.** -/
inductive XStatus where
  | accepted
  | processing
  | rejected
  | unknown
  deriving DecidableEq, Repr

/-- **The state of a transaction on the platform lane.** -/
inductive PStatus where
  | committed
  | processing
  | dropped
  | aborted
  | unknown
  deriving DecidableEq, Repr

/-- **What the platform lane answers** when it is asked for a state. -/
structure PStatusReply where
  status : PStatus
  /-- Why the transaction did not make it, if the node says so. -/
  reason : Option String
  deriving DecidableEq, Repr

/-- **Where a transaction stands**, on any lane. -/
inductive AcceptanceState where
  | pending
  | accepted
  | abandoned (reason : String)
  deriving DecidableEq, Repr

namespace XStatus

/-- The state with a given name; any other name is unknown. -/
def ofName : String → XStatus
  | "Accepted" => accepted
  | "Processing" => processing
  | "Rejected" => rejected
  | _ => unknown

def name : XStatus → String
  | accepted => "Accepted"
  | processing => "Processing"
  | rejected => "Rejected"
  | unknown => "Unknown"

/-- **What a state of the exchange lane comes to.** -/
def state : XStatus → AcceptanceState
  | accepted => .accepted
  | rejected => .abandoned "rejected"
  | processing | unknown => .pending

@[simp] theorem ofName_name (s : XStatus) : ofName s.name = s := by
  cases s <;> rfl

end XStatus

namespace PStatus

/-- The state with a given name; any other name is unknown. -/
def ofName : String → PStatus
  | "Committed" => committed
  | "Processing" => processing
  | "Dropped" => dropped
  | "Aborted" => aborted
  | _ => unknown

def name : PStatus → String
  | committed => "Committed"
  | processing => "Processing"
  | dropped => "Dropped"
  | aborted => "Aborted"
  | unknown => "Unknown"

@[simp] theorem ofName_name (s : PStatus) : ofName s.name = s := by
  cases s <;> rfl

end PStatus

namespace PStatusReply

/-- The answer with nothing but a state. -/
def ofStatus (status : PStatus) : PStatusReply := ⟨status, none⟩

/-- The reason that was given, or a label where none or an empty one was. -/
def reasonOr (reply : PStatusReply) (label : String) : String :=
  (reply.reason.filter (· ≠ "")).getD label

/-- **What an answer of the platform lane comes to.** -/
def state (reply : PStatusReply) : AcceptanceState :=
  match reply.status with
  | .committed => .accepted
  | .dropped => .abandoned (reply.reasonOr "dropped")
  | .aborted => .abandoned (reply.reasonOr "aborted")
  | .processing | .unknown => .pending

end PStatusReply

end LedgerNet
