import LedgerNet.Definition.Node
import LedgerNet.Number.Checked
import LedgerNet.Text.Blank

/-!
# Network definitions

A definition is the nodes of a network in the order in which they were
added, together with the **bootstrap chain**: the bootstrap nodes in the
order in which they start. A node is stamped with the chain when it is
added, and the stamp never changes. A bootstrap node joins the chain after
it was stamped, so it depends on those before it and not on itself.

The chain is kept beside the nodes and not computed from them, because a
reader of a stamp needs to know what the chain was, not what it is. That the
two agree is `Definition.Consistent`, and adding and removing keep it.
-/

namespace LedgerNet

/-- **Parameters of a whole network.** -/
structure NetworkParams where
  image : String
  /-- What a transaction costs. -/
  txFee : Amount
  sampleSize : UInt32
  quorumSize : UInt32
  deriving DecidableEq, Repr

/-- The parameters when nobody picks any. -/
def Environment.networkParams (env : Environment) : NetworkParams where
  image := env.nodeImage
  txFee := Units.fee
  sampleSize := Conventions.sampleSize
  quorumSize := Conventions.quorumSize

/-- **What is wrong with a definition**, or with a step that would change
it. -/
inductive DefinitionError where
  | duplicateNode (id : String)
  | invalidOrdinal (id : String) (ordinal next : Nat)
  | invalidConsensus (sample quorum : UInt32)
  | emptyImage
  | emptyId
  deriving DecidableEq, Repr

def DefinitionError.message : DefinitionError → String
  | duplicateNode id => "node `" ++ id ++ "` is already part of the network"
  | invalidOrdinal id ordinal next =>
    "bootstrap node `" ++ id ++ "` requested position " ++ toString ordinal
      ++ ", next free position is " ++ toString next
  | invalidConsensus sample quorum =>
    "snow quorum size " ++ toString quorum ++ " must be within 1..=" ++ toString sample
  | emptyImage => "network image must not be empty"
  | emptyId => "node id must not be empty"

/-- **Parameters that a network can run with**: an image that is not blank,
and a quorum between one and the sample. -/
def NetworkParams.validate (params : NetworkParams) : Except DefinitionError Unit :=
  if Text.isBlankText params.image then .error .emptyImage
  else if params.quorumSize = 0 ∨ params.sampleSize < params.quorumSize then
    .error (.invalidConsensus params.sampleSize params.quorumSize)
  else .ok ()

/-- **A network definition.** -/
structure Definition where
  params : NetworkParams
  /-- The nodes in the order in which they were added. -/
  nodes : List NodeConfig
  /-- The bootstrap nodes in the order in which they start. -/
  chain : List Peer
  deriving DecidableEq, Repr

namespace Definition

/-- **An empty network**, if its parameters are fine. -/
def ofParams (params : NetworkParams) : Except DefinitionError Definition := do
  params.validate
  return ⟨params, [], []⟩

variable (d : Definition)

/-- The node with a given id. -/
def node? (id : String) : Option NodeConfig :=
  d.nodes.find? (·.id == id)

def contains (id : String) : Bool :=
  (d.node? id).isSome

/-- What speaks against adding a node: an empty id, an id that is taken, or
a position in the chain other than the next one. -/
def objection? (params : NodeParams) : Option DefinitionError :=
  if params.id = "" then some .emptyId
  else if d.contains params.id then some (.duplicateNode params.id)
  else
    match params.role with
    | .bootstrap ordinal =>
      if ordinal ≠ 0 ∧ ordinal ≠ d.chain.length + 1 then
        some (.invalidOrdinal params.id ordinal (d.chain.length + 1))
      else none
    | .regular => none

/-- The definition with a node more, stamped with the chain as it stands. -/
def extended (params : NodeParams) : Definition where
  params := d.params
  nodes := d.nodes ++ [⟨params, d.chain⟩]
  chain := if params.role.isBootstrap then d.chain ++ [params.asPeer] else d.chain

/-- **Adding a node.** An addition that is refused changes nothing. -/
def add (params : NodeParams) : Except DefinitionError Definition :=
  match d.objection? params with
  | some error => .error error
  | none => .ok (d.extended params)

/-- The definition without a node. Stamps that were made while the node was
in the chain stay as they are. -/
def without (id : String) : Definition where
  params := d.params
  nodes := d.nodes.filter (·.id != id)
  chain := d.chain.filter (·.node != id)

/-- **Removing a node**, which answers with the node if there was one. -/
def remove (id : String) : Option NodeConfig × Definition :=
  match d.node? id with
  | some node => (some node, d.without id)
  | none => (none, d)

/-- Adding several nodes, one after the other; the first refusal ends it. -/
def addAll (params : List NodeParams) : Except DefinitionError Definition :=
  params.foldlM add d

/-! ## Views -/

/-- **Bootstrap nodes in the order of the chain.** -/
def bootstrapNodes : List NodeConfig :=
  d.chain.filterMap fun peer => d.node? peer.node

/-- **Regular nodes in the order in which they were added.** -/
def regularNodes : List NodeConfig :=
  d.nodes.filter (!·.isBootstrap)

/-- The identities of the whole chain, commas between them. -/
def bootstrapIds : String := joinIdentities d.chain

/-- The image that a node runs: its own or the network's. -/
def imageFor (node : NodeConfig) : String :=
  node.image.getD d.params.image

/-- **The chain agrees with the nodes**: ids are distinct and not empty, and
the chain is the bootstrap nodes in the order in which they were added. -/
structure Consistent (d : Definition) : Prop where
  nodup : (d.nodes.map NodeConfig.id).Nodup
  ids_ne : ∀ node ∈ d.nodes, node.id ≠ ""
  chain_eq : d.chain = (d.nodes.filter NodeConfig.isBootstrap).map NodeConfig.asPeer

end Definition

end LedgerNet
