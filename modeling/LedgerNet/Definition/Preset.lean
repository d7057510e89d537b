import LedgerNet.Definition.Basic
import LedgerNet.Genesis

/-!
# The network of the genesis stakers

One bootstrap node for each staker of the first ledger, pinned to that
staker's identity where its credentials are loaded. The consensus asks
three nodes and wants all three to agree.
-/

namespace LedgerNet

/-- The id of the bootstrap node at a position counted from one. -/
def bootstrapNodeId (ordinal : Nat) : String :=
  "bootstrap-node-" ++ toString ordinal

/-- What is asked for of the bootstrap node of a staker. -/
def stakerNode (env : Environment) (ordinal : Nat) (staker : Staker) : NodeParams :=
  { NodeParams.plain env (bootstrapNodeId ordinal) with
    staking := true
    credentials := staker.credentials
    role := .bootstrap ordinal }

/-- The bootstrap nodes of some stakers, counted from a given position. -/
def stakerNodes (env : Environment) : Nat → List Staker → List NodeParams
  | _, [] => []
  | ordinal, staker :: rest => stakerNode env ordinal staker :: stakerNodes env (ordinal + 1) rest

/-- The parameters of the preset: those given, but for the consensus. -/
def NetworkParams.withPresetConsensus (params : NetworkParams) : NetworkParams :=
  { params with
    sampleSize := Conventions.presetSnowSize
    quorumSize := Conventions.presetSnowSize }

/-- **The network of the genesis stakers.** -/
def bootstrappingNetwork (env : Environment) (params : NetworkParams) (genesis : Genesis) :
    Except DefinitionError Definition := do
  let empty ← Definition.ofParams params.withPresetConsensus
  empty.addAll (stakerNodes env 1 genesis.stakers)

end LedgerNet
