import LedgerNet.Definition.Basic
import Mathlib.Data.List.Nodup

/-!
# Editing a definition

A definition is built and changed by two edits, adding a node and removing
one. An addition that is refused and a removal of what is not there change
nothing, so every edit leads from a definition to a definition and a list of
edits can be run through.

`Definition.Consistent` holds of an empty network and is kept by both edits,
refused ones included. It is what allows later modules to read the chain off
the nodes: the chain after some edits is the bootstrap nodes that are
defined then, in the order in which they were added.
-/

namespace LedgerNet

/-- **One change of a definition.** -/
inductive Edit where
  | add (params : NodeParams)
  | remove (id : String)
  deriving DecidableEq, Repr

/-- The entries that some nodes have in the bootstrap chain: those of the
bootstrap nodes among them, in their order. -/
def chainOf (nodes : List NodeConfig) : List Peer :=
  (nodes.filter NodeConfig.isBootstrap).map NodeConfig.asPeer

@[simp] theorem chainOf_append (before after : List NodeConfig) :
    chainOf (before ++ after) = chainOf before ++ chainOf after := by
  simp [chainOf]

/-- Leaving out the nodes of an id leaves out their entries. -/
theorem chainOf_filter (nodes : List NodeConfig) (id : String) :
    chainOf (nodes.filter (·.id != id)) = (chainOf nodes).filter (·.node != id) := by
  unfold chainOf
  rw [List.filter_map, List.filter_filter, List.filter_filter]
  refine congrArg (List.map NodeConfig.asPeer) (List.filter_congr fun node _ => ?_)
  exact Bool.and_comm _ _

theorem mem_chainOf {nodes : List NodeConfig} {peer : Peer} :
    peer ∈ chainOf nodes ↔ ∃ node ∈ nodes, node.isBootstrap = true ∧ node.asPeer = peer := by
  simp [chainOf, and_assoc]

namespace Definition

variable {d : Definition} {params : NodeParams} {id : String}

/-- An empty network has its parameters and nothing else. -/
theorem ofParams_eq_ok {params : NetworkParams} {empty : Definition}
    (h : ofParams params = .ok empty) : empty = ⟨params, [], []⟩ := by
  unfold ofParams at h
  cases hvalid : params.validate with
  | error cause => simp [hvalid, bind, Except.bind] at h
  | ok _ =>
    rw [hvalid] at h
    exact (Except.ok.inj h).symm

/-! ## Finding nodes -/

theorem contains_iff : d.contains id = true ↔ ∃ node ∈ d.nodes, node.id = id := by
  simp [contains, node?, List.find?_isSome]

theorem contains_eq_false_iff : d.contains id = false ↔ ∀ node ∈ d.nodes, node.id ≠ id := by
  rw [← Bool.not_eq_true, contains_iff]
  simp

theorem contains_extended (other : String) :
    (d.extended params).contains other = (d.contains other || params.id == other) := by
  rw [Bool.eq_iff_iff, Bool.or_eq_true, contains_iff, contains_iff]
  simp [extended, or_and_right, exists_or, NodeConfig.id]

theorem contains_without (other : String) :
    (d.without id).contains other = (d.contains other && other != id) := by
  rw [Bool.eq_iff_iff, Bool.and_eq_true, contains_iff, contains_iff]
  simp only [without, List.mem_filter, bne_iff_ne]
  constructor
  · rintro ⟨node, ⟨hmem, hne⟩, rfl⟩
    exact ⟨⟨node, hmem, rfl⟩, hne⟩
  · rintro ⟨⟨node, hmem, rfl⟩, hne⟩
    exact ⟨node, ⟨hmem, hne⟩, rfl⟩

/-! ## One edit -/

/-- **The definition after an edit**, whether or not the edit was allowed. -/
def edited (d : Definition) : Edit → Definition
  | .add params =>
    match d.add params with
    | .ok extended => extended
    | .error _ => d
  | .remove id => (d.remove id).2

/-- An addition that nothing speaks against extends the definition. -/
theorem edited_add_of_accepted (h : d.objection? params = none) :
    d.edited (.add params) = d.extended params := by
  simp [edited, add, h]

/-- An addition that something speaks against changes nothing. -/
theorem edited_add_of_refused {cause : DefinitionError} (h : d.objection? params = some cause) :
    d.edited (.add params) = d := by
  simp [edited, add, h]

/-- A node that may be added has an id of its own. -/
theorem fresh_of_accepted (h : d.objection? params = none) :
    params.id ≠ "" ∧ d.contains params.id = false := by
  unfold objection? at h
  split at h
  · exact absurd h (by simp)
  · rename_i hempty
    split at h
    · exact absurd h (by simp)
    · rename_i htaken
      exact ⟨hempty, Bool.eq_false_iff.2 htaken⟩

/-- Nothing speaks against a node with an id of its own that asks for no place
in the chain, or for the next one. -/
theorem objection?_eq_none (hempty : params.id ≠ "") (hfresh : d.contains params.id = false)
    (hrole : ∀ ordinal, params.role = .bootstrap ordinal → ordinal = d.chain.length + 1) :
    d.objection? params = none := by
  unfold objection?
  rw [if_neg hempty, hfresh, if_neg Bool.false_ne_true]
  -- only a bootstrap node can ask for a place
  cases hplace : params.role with
  | regular => rfl
  | bootstrap ordinal => exact if_neg fun hwrong => hwrong.2 (hrole ordinal hplace)

/-- A node with the id of another one is refused, whatever else is asked for. -/
theorem objection?_eq_duplicateNode (hempty : params.id ≠ "")
    (htaken : d.contains params.id = true) :
    d.objection? params = some (.duplicateNode params.id) := by
  unfold objection?
  rw [if_neg hempty, if_pos htaken]

namespace Consistent

/-- The chain, read off the nodes. -/
theorem chain_eq_chainOf (h : d.Consistent) : d.chain = chainOf d.nodes := h.chain_eq

/-- **An empty network is consistent.** -/
theorem ofParams {params : NetworkParams} {empty : Definition}
    (h : Definition.ofParams params = .ok empty) : empty.Consistent := by
  obtain rfl := ofParams_eq_ok h
  exact ⟨List.nodup_nil, by simp, rfl⟩

/-- Adding a node that may be added keeps a definition consistent. -/
theorem extended (h : d.Consistent) (hobjection : d.objection? params = none) :
    (d.extended params).Consistent := by
  obtain ⟨hempty, hfresh⟩ := fresh_of_accepted hobjection
  have hne := contains_eq_false_iff.1 hfresh
  refine ⟨?_, ?_, ?_⟩
  · simp only [Definition.extended, List.map_append, List.map_cons, List.map_nil]
    refine List.nodup_append.2 ⟨h.nodup, List.nodup_singleton _, ?_⟩
    intro other hother id hid
    obtain ⟨node, hmem, rfl⟩ := List.mem_map.1 hother
    rw [List.mem_singleton.1 hid]
    exact hne node hmem
  · intro node hmem
    simp only [Definition.extended, List.mem_append, List.mem_singleton] at hmem
    obtain hmem | rfl := hmem
    · exact h.ids_ne node hmem
    · exact hempty
  · show _ = chainOf (d.nodes ++ [⟨params, d.chain⟩])
    rw [chainOf_append, ← h.chain_eq_chainOf]
    cases hrole : params.role.isBootstrap <;>
      simp [Definition.extended, chainOf, NodeConfig.isBootstrap, NodeConfig.asPeer, hrole]

/-- Leaving a node out keeps a definition consistent. -/
theorem without (h : d.Consistent) (id : String) : (d.without id).Consistent := by
  refine ⟨?_, ?_, ?_⟩
  · exact h.nodup.sublist (List.filter_sublist.map NodeConfig.id)
  · intro node hmem
    exact h.ids_ne node (List.mem_filter.1 hmem).1
  · show d.chain.filter _ = chainOf (d.nodes.filter _)
    rw [chainOf_filter, ← h.chain_eq_chainOf]

/-- What is not there need not be left out. -/
theorem without_eq_self (h : d.Consistent) (hid : d.contains id = false) : d.without id = d := by
  have hne := contains_eq_false_iff.1 hid
  have hnodes : d.nodes.filter (·.id != id) = d.nodes :=
    List.filter_eq_self.2 fun node hmem => bne_iff_ne.2 (hne node hmem)
  have hchain : d.chain.filter (·.node != id) = d.chain := by
    rw [h.chain_eq_chainOf, ← chainOf_filter, hnodes]
  unfold Definition.without
  rw [hnodes, hchain]

/-- **Adding a node and removing it again** changes nothing. -/
theorem remove_extended (h : d.Consistent) (hid : d.contains params.id = false) :
    ((d.extended params).remove params.id).2 = d := by
  have hleft : (d.extended params).without params.id = d.without params.id := by
    unfold Definition.without Definition.extended
    cases params.role.isBootstrap <;> simp [NodeConfig.id, NodeParams.asPeer]
  have hfound : ((d.extended params).node? params.id).isSome = true :=
    (contains_extended params.id).trans (by simp)
  obtain ⟨node, hnode⟩ := Option.isSome_iff_exists.1 hfound
  unfold remove
  rw [hnode]
  exact hleft.trans (h.without_eq_self hid)

/-- In a consistent definition a node is found under its id. -/
theorem node?_eq (h : d.Consistent) {node : NodeConfig} (hmem : node ∈ d.nodes) :
    d.node? node.id = some node := by
  obtain ⟨before, after, hsplit⟩ := List.append_of_mem hmem
  have hnodup := h.nodup
  rw [hsplit, List.map_append, List.map_cons, List.nodup_append] at hnodup
  have hbefore : before.find? (·.id == node.id) = none := by
    rw [List.find?_eq_none]
    intro other hother heq
    exact hnodup.2.2 other.id (List.mem_map_of_mem hother) node.id (by simp) (by simpa using heq)
  simp [node?, hsplit, List.find?_append, hbefore]

/-- **A node that was just added is the one that its id removes**, with the
stamp that it got, and the definition is the one before. -/
theorem remove_extended_eq (h : d.Consistent) (hobjection : d.objection? params = none) :
    (d.extended params).remove params.id = (some ⟨params, d.chain⟩, d) := by
  obtain ⟨-, hfresh⟩ := fresh_of_accepted hobjection
  have hmem : (⟨params, d.chain⟩ : NodeConfig) ∈ (d.extended params).nodes := by
    simp [Definition.extended]
  have hfound : (d.extended params).node? params.id = some ⟨params, d.chain⟩ :=
    (h.extended hobjection).node?_eq hmem
  have hanswer : ((d.extended params).remove params.id).1 = some ⟨params, d.chain⟩ := by
    unfold remove
    rw [hfound]
  exact Prod.ext hanswer (h.remove_extended hfresh)

/-- Removing is leaving out. -/
theorem edited_remove (h : d.Consistent) (id : String) : d.edited (.remove id) = d.without id := by
  simp only [Definition.edited, remove]
  cases hnode : d.node? id with
  | some node => rfl
  | none => exact (h.without_eq_self (by simp [contains, hnode])).symm

/-- **Every edit keeps a definition consistent.** -/
theorem edited (h : d.Consistent) (edit : Edit) : (d.edited edit).Consistent := by
  cases edit with
  | add params =>
    cases hobjection : d.objection? params with
    | none => rw [edited_add_of_accepted hobjection]; exact h.extended hobjection
    | some cause => rw [edited_add_of_refused hobjection]; exact h
  | remove id => rw [h.edited_remove]; exact h.without id

/-- An id is found exactly where a node has it. -/
theorem node?_eq_some_iff (h : d.Consistent) {node : NodeConfig} :
    d.node? id = some node ↔ node ∈ d.nodes ∧ node.id = id := by
  constructor
  · intro hfound
    exact ⟨List.mem_of_find?_eq_some hfound, by simpa using List.find?_some hfound⟩
  · rintro ⟨hmem, rfl⟩
    exact h.node?_eq hmem

/-- **No entry of the chain is without its node**: the bootstrap nodes in the
order of the chain are those in the order in which they were added. -/
theorem bootstrapNodes_eq (h : d.Consistent) :
    d.bootstrapNodes = d.nodes.filter NodeConfig.isBootstrap := by
  have hfound : ∀ node ∈ d.nodes.filter NodeConfig.isBootstrap,
      d.node? node.asPeer.node = some node :=
    fun node hmem => h.node?_eq (List.mem_filter.1 hmem).1
  unfold bootstrapNodes
  rw [h.chain_eq, List.filterMap_map]
  exact (List.filterMap_congr hfound).trans List.filterMap_some

/-- **The bootstrap nodes and then the others are all nodes**, in an order of
their own. -/
theorem perm_nodes (h : d.Consistent) : (d.bootstrapNodes ++ d.regularNodes).Perm d.nodes := by
  rw [h.bootstrapNodes_eq]
  exact List.filter_append_perm NodeConfig.isBootstrap d.nodes

end Consistent

/-! ## A list of edits -/

/-- **The definition after some edits**, one after the other. -/
def editedAll (d : Definition) (edits : List Edit) : Definition := edits.foldl edited d

@[simp] theorem editedAll_append (before after : List Edit) :
    d.editedAll (before ++ after) = (d.editedAll before).editedAll after :=
  List.foldl_append

@[simp] theorem editedAll_singleton (edit : Edit) : d.editedAll [edit] = d.edited edit := rfl

/-- **Whatever edits are made, a consistent definition stays consistent.** -/
theorem Consistent.editedAll (h : d.Consistent) (edits : List Edit) :
    (d.editedAll edits).Consistent := by
  induction edits generalizing d with
  | nil => exact h
  | cons edit edits ih => exact ih (h.edited edit)

end Definition

end LedgerNet
