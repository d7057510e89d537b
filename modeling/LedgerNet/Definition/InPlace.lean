import LedgerNet.Definition.Indexed

/-!
# Edits in place

The containers of an indexed definition are changed where they stand, one
write after another. A refusal does not take back what was written before it,
so an edit that is refused changes nothing only because all its checks come
first. Removing a node leaves its id out of the order and its entries out of
the chain wherever they stand, which takes back an addition only because
the id stands nowhere else.

A node may arrive with a stamp, say when it was read from another network.
The stamp that it gets here replaces it.
-/

namespace LedgerNet

/-- **A definition is equal to another** if its containers are. The tables
are compared by what they hold, however they grew. -/
instance : BEq IndexedDefinition where
  beq k k' := k.params == k'.params && k.table == k'.table && k.order == k'.order
    && k.chain == k'.chain

namespace NodeConfig

/-- The node with a chain as its stamp, whatever was stamped on it before. -/
def stamped (node : NodeConfig) (chain : List Peer) : NodeConfig :=
  { node with dependsOn := chain }

end NodeConfig

/-- **Steps on a definition in place.** An error keeps the writes before it. -/
abbrev InPlace := ExceptT DefinitionError (StateM IndexedDefinition)

/-- What some steps answer on a definition, and what they leave behind. -/
def InPlace.on {α : Type} (steps : InPlace α) (k : IndexedDefinition) :
    Except DefinitionError α × IndexedDefinition :=
  StateT.run (ExceptT.run steps) k

namespace IndexedDefinition

/-- **Writing a node** with its stamp to each container, one after the
other. The answer is the stored node. -/
def write (entry : NodeConfig) : StateM IndexedDefinition NodeConfig := do
  if entry.isBootstrap then
    modify fun k => { k with chain := k.chain ++ [entry.asPeer] }
  modify fun k => { k with order := k.order ++ [entry.id] }
  let (former, table) := (← get).table.getThenInsertIfNew? entry.id entry
  modify fun k => { k with table := table }
  return former.getD entry

/-- **Entering a node**: the checks, the stamp and the writes. -/
def enter (node : NodeConfig) : InPlace NodeConfig := do
  match (← get).objection? node.params with
  | some cause => throw cause
  | none => write (node.stamped (← get).chain)

/-- **Withdrawing a node**, which is the answer if there was one. -/
def withdraw (id : String) : StateM IndexedDefinition (Option NodeConfig) := do
  match (← get).table[id]? with
  | none => return none
  | some node =>
    modify fun k => { k with table := k.table.erase id }
    modify fun k => { k with order := k.order.filter (· != id) }
    modify fun k => { k with chain := k.chain.filter (·.node != id) }
    return some node

end IndexedDefinition

end LedgerNet
