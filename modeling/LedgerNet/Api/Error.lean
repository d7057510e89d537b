/-!
# What goes wrong between a run and a node

A request can fail on its way, be refused by the node, be answered with
nothing, be answered with something that makes no sense, or be one that a
client does not know. Only the last one is final when a transaction is
waited for: a client that cannot tell the state of a transaction will not be
able to later.
-/

namespace LedgerNet

/-- **A request that came back without a reply.** -/
inductive TransportError where
  /-- The server answered with a status that is an error. -/
  | status (url : String) (code : Nat)
  /-- The body of the answer is no reply. -/
  | undecodable
  /-- There was no answer. -/
  | unanswered (url : String)
  deriving DecidableEq, Repr

/-- What is reported. -/
def TransportError.message : TransportError → String
  | .status url code => "HTTP status " ++ toString code ++ " for url (" ++ url ++ ")"
  | .undecodable => "error decoding response body"
  | .unanswered url => "error sending request for url (" ++ url ++ ")"

/-- **Why a call to a node has no result.** -/
inductive ApiError where
  | transport (cause : TransportError)
  /-- The node refused the call. -/
  | rpc (method : String) (code : Int) (message : String)
  | emptyReply (method : String)
  | malformed (method field value : String)
  | unsupported (method : String)
  deriving DecidableEq, Repr

namespace ApiError

/-- What is reported. -/
def message : ApiError → String
  | transport cause => cause.message
  | rpc method code text =>
    method ++ " failed with rpc error " ++ toString code ++ ": " ++ text
  | emptyReply method => method ++ " returned neither a result nor an error"
  | malformed method field value =>
    "malformed " ++ field ++ " in reply to " ++ method ++ ": " ++ value
  | unsupported method => method ++ " is not available on this client"

/-- Whether the client does not know the call. -/
def isUnsupported : ApiError → Bool
  | unsupported _ => true
  | _ => false

end ApiError

end LedgerNet
