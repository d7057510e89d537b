import LedgerNet.Definition.Basic
import Mathlib.Tactic.Common

/-!
# Definitions with an index

A definition can be kept so that a node is found without a search: a table
holds the nodes by id, and their order is a list of ids beside it. The
bootstrap chain is a third container. Every edit has to bring all three up to
date, and the views look up in the table what the other two name, so an id
that only one of them has would be passed over in silence. That this never
happens is what `Represents` says: all three show one and the same definition.
-/

namespace LedgerNet

/-- **A definition with an index** of its nodes. -/
structure IndexedDefinition where
  params : NetworkParams
  /-- The nodes by id. -/
  table : Std.HashMap String NodeConfig
  /-- The ids in the order in which they were added. -/
  order : List String
  /-- The bootstrap nodes in the order in which they start. -/
  chain : List Peer

namespace IndexedDefinition

/-- **An empty network**, if its parameters are fine. -/
def ofParams (params : NetworkParams) : Except DefinitionError IndexedDefinition := do
  params.validate
  return ⟨params, ∅, [], []⟩

variable (k : IndexedDefinition)

/-- What speaks against adding a node. -/
def objection? (params : NodeParams) : Option DefinitionError :=
  if params.id = "" then some .emptyId
  else if k.table.contains params.id then some (.duplicateNode params.id)
  else
    match params.role with
    | .bootstrap ordinal =>
      if ordinal ≠ 0 ∧ ordinal ≠ k.chain.length + 1 then
        some (.invalidOrdinal params.id ordinal (k.chain.length + 1))
      else none
    | .regular => none

/-- The definition with a node more. -/
def extended (params : NodeParams) : IndexedDefinition where
  params := k.params
  table := k.table.insert params.id ⟨params, k.chain⟩
  order := k.order ++ [params.id]
  chain := if params.role.isBootstrap then k.chain ++ [params.asPeer] else k.chain

/-- **Adding a node**, in all three containers. -/
def add (params : NodeParams) : Except DefinitionError IndexedDefinition :=
  match k.objection? params with
  | some error => .error error
  | none => .ok (k.extended params)

/-- **Removing a node**, from all three containers. -/
def remove (id : String) : Option NodeConfig × IndexedDefinition :=
  match k.table[id]? with
  | some node =>
    (some node, {
      params := k.params
      table := k.table.erase id
      order := k.order.filter (· != id)
      chain := k.chain.filter (·.node != id) })
  | none => (none, k)

/-! ## Views -/

/-- **The nodes in the order in which they were added.** -/
def nodes : List NodeConfig := k.order.filterMap fun id => k.table[id]?

/-- **Bootstrap nodes in the order of the chain.** -/
def bootstrapNodes : List NodeConfig := k.chain.filterMap fun peer => k.table[peer.node]?

/-- **Regular nodes in the order in which they were added.** -/
def regularNodes : List NodeConfig := k.nodes.filter (!·.isBootstrap)

/-- How many nodes the table holds. -/
def size : Nat := k.table.size

end IndexedDefinition

end LedgerNet
