import LedgerNet.Conventions
import LedgerNet.Environment.Basic
import LedgerNet.Text.Quoted

/-!
# The nodes of a network

What is known about one node before it is started. A node is named by an id
inside the definition, and the network knows it by an identity: its own id,
or the identity of the credentials it is pinned to. Credentials count only
when they are complete. Half a pair would let a node be advertised under an
identity that it cannot prove, so every question about credentials goes
through `NodeConfig.credentials?`.
-/

namespace LedgerNet

/-- **A certificate and a key** that pin a node to an identity. -/
structure Credentials where
  /-- The identity that the network derives from the certificate. -/
  nodeId : String
  cert : String
  key : String
  deriving DecidableEq, Repr

namespace Credentials

/-- Both halves of the pair are there. -/
def isComplete (c : Credentials) : Bool :=
  c.cert ≠ "" && c.key ≠ ""

/-- What is shown of credentials: the identity, and the length of the
certificate in bytes. The contents stay out of logs. -/
def debug (c : Credentials) : String :=
  "StakingCredentials \x7b node_id: " ++ Text.quote c.nodeId ++ ", tls_cert_len: "
    ++ toString c.cert.utf8ByteSize ++ ", .. \x7d"

end Credentials

/-- **The part a node plays.** -/
inductive Role where
  /-- A member of the bootstrap chain, at a position counted from one; zero
  asks for the next free one. -/
  | bootstrap (ordinal : Nat)
  | regular
  deriving DecidableEq, Repr

/-- **An entry of the bootstrap chain.** -/
structure Peer where
  /-- The id inside the definition. -/
  node : String
  /-- The identity that other nodes connect to. -/
  identity : String
  deriving DecidableEq, Repr

/-- **What is asked for when a node is added.** -/
structure NodeParams where
  id : String
  /-- Its own image, in place of the network's. -/
  image : Option String
  staking : Bool
  credentials : Option Credentials
  role : Role
  bootstrapAttempts : UInt32
  logLevel : String
  deriving DecidableEq, Repr

/-- **A node of a definition.** It never changes once it is added. -/
structure NodeConfig where
  params : NodeParams
  /-- The bootstrap chain as it stood when the node was added. -/
  dependsOn : List Peer
  deriving DecidableEq, Repr

/-- The log level that nodes are started with. -/
def Environment.nodeLogLevel (env : Environment) : String :=
  env.logLevel?.getD Conventions.logLevel

/-- The image that a network runs when nobody picks one. -/
def Environment.nodeImage (env : Environment) : String :=
  env.nodeImage?.getD Conventions.nodeImage

/-- A regular node with nothing but an id. -/
def NodeParams.plain (env : Environment) (id : String) : NodeParams where
  id := id
  image := none
  staking := false
  credentials := none
  role := .regular
  bootstrapAttempts := Conventions.bootstrapAttempts
  logLevel := env.nodeLogLevel

namespace Role

/-- Whether the role is a place in the bootstrap chain. -/
def isBootstrap : Role → Bool
  | bootstrap _ => true
  | regular => false

end Role

/-- The identities of some peers, commas between them. -/
def joinIdentities (peers : List Peer) : String :=
  String.intercalate "," (peers.map Peer.identity)

namespace NodeParams

/-- **The credentials of a node**, if they are complete. -/
def credentials? (params : NodeParams) : Option Credentials :=
  params.credentials.filter Credentials.isComplete

/-- **The identity by which others reach a node.** -/
def identity (params : NodeParams) : String :=
  match params.credentials? with
  | some credentials => credentials.nodeId
  | none => params.id

/-- The entry of a node in the bootstrap chain. -/
def asPeer (params : NodeParams) : Peer := ⟨params.id, params.identity⟩

end NodeParams

namespace NodeConfig

variable (node : NodeConfig)

def id : String := node.params.id
def image : Option String := node.params.image
def isStaking : Bool := node.params.staking
def role : Role := node.params.role
def isBootstrap : Bool := node.params.role.isBootstrap
def bootstrapAttempts : UInt32 := node.params.bootstrapAttempts
def logLevel : String := node.params.logLevel

/-- The credentials of the node, if they are complete. -/
def credentials? : Option Credentials := node.params.credentials?

/-- The identity by which others reach the node. -/
def identity : String := node.params.identity

/-- The entry of the node in the bootstrap chain. -/
def asPeer : Peer := node.params.asPeer

/-- The identities of the nodes it depends on, commas between them. -/
def bootstrapIds : String := joinIdentities node.dependsOn

end NodeConfig

end LedgerNet
