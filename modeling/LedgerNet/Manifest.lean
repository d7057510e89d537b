import LedgerNet.Definition.Basic
import LedgerNet.Genesis
import LedgerNet.Yaml.Typed

/-!
# Network manifests

A network can be described in a file. The manifest gives the parameters, as
far as they are not the usual ones, and the nodes in the order in which they
are added; a node may take the identity of a staker of the first ledger by
its place in the list of stakers.
-/

namespace LedgerNet

/-- **A node of a manifest.** -/
structure ManifestNode where
  id : String
  image : Option String
  staking : Bool
  bootstrap : Bool
  /-- The place in the bootstrap chain; zero is the next free one. It means
  nothing for other nodes. -/
  ordinal : Nat
  /-- Which of the genesis stakers the node is, counted from zero. -/
  staker : Option Nat
  bootstrapAttempts : Option UInt32
  deriving DecidableEq, Repr

/-- **A description of a network.** -/
structure Manifest where
  image : Option String
  txFee : Option Amount
  sampleSize : Option UInt32
  quorumSize : Option UInt32
  nodes : List ManifestNode
  deriving DecidableEq, Repr

/-- What goes wrong on the way from a file to a network. -/
inductive ManifestError where
  | unreadable (path : String) (cause : FileError)
  | malformed
  | unknownStaker (node : String) (staker available : Nat)
  | definition (cause : DefinitionError)
  deriving DecidableEq, Repr

namespace ManifestError

def message : ManifestError → String
  | unreadable path _ => "failed to read network manifest " ++ path
  | malformed => "failed to parse network manifest"
  | unknownStaker node staker available =>
    "node `" ++ node ++ "` references staker " ++ toString staker ++ ", genesis has "
      ++ toString available
  | definition cause => cause.message

def causes : ManifestError → List String
  | unreadable _ cause => [cause.message]
  | _ => []

end ManifestError

/-! ## Reading -/

namespace ManifestNode

/-- The names of the fields. -/
def fields : List String :=
  ["id", "image", "staking", "bootstrap", "ordinal", "staker", "bootstrap_attempts"]

/-- The node in a place of a document. Only the id has to be there. -/
def ofNode? (doc : Yaml.Document) (node : Yaml.Node) : Option ManifestNode := do
  let record ← doc.record? fields node
  let count := doc.whole? (2 ^ 64)
  return {
    id := ← record.required "id" doc.text?
    image := ← record.withDefault "image" none (doc.optional? doc.text?)
    staking := ← record.withDefault "staking" false doc.truth?
    bootstrap := ← record.withDefault "bootstrap" false doc.truth?
    ordinal := ← record.withDefault "ordinal" 0 count
    staker := ← record.withDefault "staker" none (doc.optional? count)
    bootstrapAttempts := (← record.withDefault "bootstrap_attempts" none
      (doc.optional? (doc.whole? (2 ^ 32)))).map UInt32.ofNat }

end ManifestNode

namespace Manifest

/-- The names of the fields. -/
def fields : List String := ["image", "tx_fee", "snow_sample_size", "snow_quorum_size", "nodes"]

/-- The manifest that a document holds. No field has to be there. -/
def ofDocument? (doc : Yaml.Document) : Option Manifest := do
  let record ← doc.record? fields doc.root
  let whole (name : String) (bound : Nat) :=
    record.withDefault name none (doc.optional? (doc.whole? bound))
  return {
    image := ← record.withDefault "image" none (doc.optional? doc.text?)
    txFee := (← whole "tx_fee" (2 ^ 64)).map UInt64.ofNat
    sampleSize := (← whole "snow_sample_size" (2 ^ 32)).map UInt32.ofNat
    quorumSize := (← whole "snow_quorum_size" (2 ^ 32)).map UInt32.ofNat
    nodes := ← (← record.withDefault "nodes" [] doc.items?).mapM (ManifestNode.ofNode? doc) }

/-- **The manifest in a text.** -/
def ofText (s : String) : Except ManifestError Manifest :=
  match (Yaml.Document.parse? s).bind ofDocument? with
  | some manifest => .ok manifest
  | none => .error .malformed

/-- **The manifest in a file.** -/
def ofFile (files : FileSystem) (path : String) : Except ManifestError Manifest := do
  ofText (← (files.readText path).mapError (.unreadable path))

end Manifest

/-! ## Networks of manifests -/

namespace ManifestNode

/-- What is known of the staker that the node is to be. -/
def credentials (node : ManifestNode) (genesis : Genesis) :
    Except ManifestError (Option Credentials) :=
  match node.staker with
  | none => .ok none
  | some index =>
    match genesis.stakers[index]? with
    | some staker => .ok staker.credentials
    | none => .error (.unknownStaker node.id index genesis.stakers.length)

/-- What is asked for of the node. -/
def params (node : ManifestNode) (env : Environment) (credentials : Option Credentials) :
    NodeParams :=
  { NodeParams.plain env node.id with
    image := node.image
    staking := node.staking
    credentials
    role := if node.bootstrap then .bootstrap node.ordinal else .regular
    bootstrapAttempts := node.bootstrapAttempts.getD Conventions.bootstrapAttempts }

end ManifestNode

namespace Manifest

/-- The parameters of the network. -/
def params (manifest : Manifest) (env : Environment) : NetworkParams :=
  let usual := env.networkParams
  { image := manifest.image.getD usual.image
    txFee := manifest.txFee.getD usual.txFee
    sampleSize := manifest.sampleSize.getD usual.sampleSize
    quorumSize := manifest.quorumSize.getD usual.quorumSize }

/-- Adds a node of a manifest to a network. -/
def addNode (env : Environment) (genesis : Genesis) (definition : Definition)
    (node : ManifestNode) : Except ManifestError Definition := do
  let credentials ← node.credentials genesis
  (definition.add (node.params env credentials)).mapError .definition

/-- **The network of a manifest**: its nodes added one after the other, each
with the identity of its staker. The first that is refused ends it. -/
def definition (manifest : Manifest) (env : Environment) (genesis : Genesis) :
    Except ManifestError Definition := do
  let empty ← (Definition.ofParams (manifest.params env)).mapError .definition
  manifest.nodes.foldlM (addNode env genesis) empty

end Manifest

end LedgerNet
