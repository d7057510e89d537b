import LedgerNet.Staking.Error

/-!
# Adding nodes to a running network

Nodes join one at a time. Each is added to the definition, started and
waited for before the next one is added. A node that does not make it is
taken out of the definition and of the fleet again, so the same call can be
made once more.

The definition and the fleet change together; the two are the `Site` of a
network.
-/

namespace LedgerNet

/-- **A network on which a run happens**: what is defined and what runs. -/
structure Site (κ : Type) where
  definition : Definition
  fleet : Fleet κ

/-- A program that changes a site. -/
abbrev SiteAction (κ : Type) := Action (Site κ) (Network κ) StakingError

namespace Site

variable {κ : Type}

/-- A change of the fleet alone. -/
def ofFleet {ε α : Type} (p : FleetAction κ ε α) : Action (Site κ) (Network κ) ε α :=
  p.within fleet fun fleet site => { site with fleet }

/-- The id of an added node at a position counted from one. -/
def addedNodeId (index : Nat) : String := "new-node-" ++ toString index

/-- What is asked for of an added node. -/
def addedNode (env : Environment) (image : Option String) (index : Nat) : NodeParams :=
  { NodeParams.plain env (addedNodeId index) with image := image, staking := true }

/-- **Adds a node to the definition**, and answers with it as it was
stamped. -/
def define (params : NodeParams) : SiteAction κ NodeConfig := do
  let site ← Action.state
  match site.definition.add params with
  | .error cause => .fail (.configuration cause)
  | .ok definition =>
    Action.change fun site => { site with definition }
    return ⟨params, site.definition.chain⟩

/-- **Takes a node out again** that did not make it. That its service does
not stop is no reason to say anything else than why it did not make it. -/
def rollBack (id : String) : SiteAction κ Unit := do
  Action.change fun site => { site with definition := (site.definition.remove id).2 }
  if (← Action.state).fleet.contains id then
    let _ ← (ofFleet (Fleet.remove id)).outcome

/-- **Adds one node** and waits until it is ready. -/
def addNode (params : NodeParams) : SiteAction κ (TrackedNode κ) := do
  let node ← define params
  match ← (ofFleet (Fleet.create (← Action.state).definition node)).outcome with
  | .ok tracked => return tracked
  | .error (.error cause) =>
    rollBack node.id
    .fail (.fleet cause)
  | .error (.crash cause) => .ofOutcome (Outcome.crashed cause)

/-- Adds nodes at the positions from `index` on, as many as are left. -/
def addNodesFrom (env : Environment) (image : Option String) (index : Nat) :
    Nat → SiteAction κ (List (TrackedNode κ))
  | 0 => return []
  | left + 1 => do
    let tracked ← addNode (addedNode env image index)
    return tracked :: (← addNodesFrom env image (index + 1) left)

/-- **Adds a number of nodes**, one after the other. -/
def addNodes (env : Environment) (image : Option String) (count : Nat) :
    SiteAction κ (List (TrackedNode κ)) :=
  addNodesFrom env image 1 count

end Site

end LedgerNet
