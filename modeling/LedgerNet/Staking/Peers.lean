import LedgerNet.Staking.Participant

/-!
# Who is connected to whom

On a network that is closed to others, every peer that a node reports is a
participant, and its address is the host part of the socket that the node
names.
-/

namespace LedgerNet

namespace Peers

variable {κ : Type}

/-- Whether a peer is one of the expected participants. -/
def isExpected (expected : List (Participant κ)) (peer : ConnectedPeer) : Bool :=
  expected.any fun candidate => candidate.ip.text == peer.host

/-- An entry in a book that is sorted by its names, in place of the one with
its name. -/
def enter (entry : String × String) : List (String × String) → List (String × String)
  | [] => [entry]
  | other :: rest =>
    if entry.1 < other.1 then entry :: other :: rest
    else if entry.1 = other.1 then entry :: rest
    else other :: enter entry rest

/-- **The expected participants as a book**: identities and addresses. -/
def bookOf (expected : List (Participant κ)) : List (String × String) :=
  expected.foldl (fun book node => enter (node.nodeId, node.ip.text) book) []

/-- The peers of one node. -/
def verifyNode (expected : List (Participant κ)) (node : Participant κ) :
    Attempt (Timed (Clients κ)) StakingError Unit := do
  let peers : List ConnectedPeer ← node.call .peers
  match peers.find? fun peer => !isExpected expected peer with
  | some peer => .fail (.peerMismatch peer.host (bookOf expected))
  | none => return ()

/-- **Every peer of some nodes is expected.** -/
def verify (nodes expected : List (Participant κ)) :
    Attempt (Timed (Clients κ)) StakingError Unit :=
  nodes.forM (verifyNode expected)

end Peers

end LedgerNet
