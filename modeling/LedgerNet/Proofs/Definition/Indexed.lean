import LedgerNet.Definition.Indexed
import LedgerNet.Proofs.Definition.Edits
import Mathlib.Tactic.Common

/-!
# What an index shows

An indexed definition is edited in step with a plain one. `Represents` says
that its three containers are those of the plain one: the table finds what a
search finds, the order is the ids of the nodes, and the chain is the chain.
Every edit keeps this (`Represents.edited`), refused additions and removals of
what is not there included. So no container is ever behind the others, and
each view of the index is the view of the plain definition, with nothing
passed over.
-/

namespace LedgerNet

namespace IndexedDefinition

variable {k : IndexedDefinition} {d : Definition} {params : NodeParams} {id : String}

/-- **An index represents a definition**: each of its containers is what the
definition has in its place. -/
structure Represents (k : IndexedDefinition) (d : Definition) : Prop where
  params_eq : k.params = d.params
  table_eq : ∀ id, k.table[id]? = d.node? id
  order_eq : k.order = d.nodes.map NodeConfig.id
  chain_eq : k.chain = d.chain

/-- **The index after an edit**, whether or not the edit was allowed. -/
def edited (k : IndexedDefinition) : Edit → IndexedDefinition
  | .add params =>
    match k.add params with
    | .ok extended => extended
    | .error _ => k
  | .remove id => (k.remove id).2

theorem edited_add_of_accepted (h : k.objection? params = none) :
    k.edited (.add params) = k.extended params := by
  simp [edited, add, h]

theorem edited_add_of_refused {cause : DefinitionError} (h : k.objection? params = some cause) :
    k.edited (.add params) = k := by
  simp [edited, add, h]

/-- **The index after some edits**, one after the other. -/
def editedAll (k : IndexedDefinition) (edits : List Edit) : IndexedDefinition :=
  edits.foldl edited k

namespace Represents

/-- Parameters are judged alike, and an empty index represents an empty
network. -/
theorem ofParams {params : NetworkParams} {empty : Definition}
    (h : Definition.ofParams params = .ok empty) :
    ∃ start, IndexedDefinition.ofParams params = .ok start ∧ start.Represents empty := by
  obtain rfl := Definition.ofParams_eq_ok h
  refine ⟨⟨params, ∅, [], []⟩, ?_, ⟨rfl, fun id => ?_, rfl, rfl⟩⟩
  · unfold Definition.ofParams at h
    unfold IndexedDefinition.ofParams
    cases hvalid : params.validate with
    | error cause => simp [hvalid, bind, Except.bind] at h
    | ok _ => rfl
  · simp [Definition.node?]

/-! ## Edits -/

theorem contains_eq (h : k.Represents d) (id : String) : k.table.contains id = d.contains id := by
  rw [Std.HashMap.contains_eq_isSome_getElem?, h.table_eq]
  rfl

/-- The same speaks against an addition. -/
theorem objection?_eq (h : k.Represents d) : k.objection? params = d.objection? params := by
  unfold IndexedDefinition.objection? Definition.objection?
  cases params.role <;> simp only [h.contains_eq, h.chain_eq]

/-- **Adding a node** to all three containers. -/
theorem extended (h : k.Represents d) (hobjection : d.objection? params = none) :
    (k.extended params).Represents (d.extended params) where
  params_eq := h.params_eq
  table_eq id := by
    obtain ⟨-, hfresh⟩ := Definition.fresh_of_accepted hobjection
    have hnew : d.node? params.id = none := by simpa [Definition.contains] using hfresh
    have hfound : (d.extended params).node? id
        = (d.node? id).or (if params.id = id then some ⟨params, d.chain⟩ else none) := by
      simp [Definition.extended, Definition.node?, List.find?_append, List.find?_cons,
        NodeConfig.id]
      split <;> simp_all
    rw [hfound, IndexedDefinition.extended, Std.HashMap.getElem?_insert, h.table_eq, h.chain_eq]
    -- the id is the new one, which was not there, or the search is as before
    by_cases hid : params.id = id
    · subst hid
      simp [hnew]
    · simp [hid]
  order_eq := by simp [IndexedDefinition.extended, Definition.extended, h.order_eq, NodeConfig.id]
  chain_eq := by simp only [IndexedDefinition.extended, Definition.extended, h.chain_eq]

/-- **Removing a node** from all three containers, and the answer to it. -/
theorem remove (h : k.Represents d) (id : String) :
    (k.remove id).1 = (d.remove id).1 ∧ (k.remove id).2.Represents (d.remove id).2 := by
  unfold IndexedDefinition.remove Definition.remove
  rw [h.table_eq]
  cases hnode : d.node? id with
  | none => exact ⟨rfl, h⟩
  | some node =>
    refine ⟨rfl, h.params_eq, fun other => ?_, ?_, by rw [h.chain_eq]; rfl⟩
    · rw [Std.HashMap.getElem?_erase, h.table_eq]
      unfold Definition.node? Definition.without
      rw [List.find?_filter]
      by_cases hid : id = other
      · subst hid
        rw [if_pos (beq_self_eq_true id)]
        exact (List.find?_eq_none.2 fun node _ => by simp).symm
      · simp only [beq_iff_eq, hid, if_false]
        refine congrArg (fun test => d.nodes.find? test) (funext fun node => ?_)
        by_cases hother : node.id = other <;> simp [hother, Ne.symm hid]
    · rw [h.order_eq, Definition.without, List.filter_map]
      rfl

/-- **Every edit** is made in all three containers. -/
theorem edited (h : k.Represents d) (edit : Edit) : (k.edited edit).Represents (d.edited edit) := by
  cases edit with
  | remove id => exact (h.remove id).2
  | add params =>
    have hobjection : k.objection? params = d.objection? params := h.objection?_eq
    cases hplain : d.objection? params with
    | some cause =>
      rw [edited_add_of_refused (hobjection.trans hplain), Definition.edited_add_of_refused hplain]
      exact h
    | none =>
      rw [edited_add_of_accepted (hobjection.trans hplain),
        Definition.edited_add_of_accepted hplain]
      exact h.extended hplain

theorem editedAll (h : k.Represents d) (edits : List Edit) :
    (k.editedAll edits).Represents (d.editedAll edits) := by
  induction edits generalizing k d with
  | nil => exact h
  | cons edit edits ih => exact ih (h.edited edit)

/-! ## Views -/

/-- **No id of the order is without its node.** -/
theorem nodes_eq (h : k.Represents d) (hd : d.Consistent) : k.nodes = d.nodes := by
  have hfound : ∀ node ∈ d.nodes, k.table[node.id]? = some node := fun node hmem =>
    (h.table_eq node.id).trans (hd.node?_eq hmem)
  unfold IndexedDefinition.nodes
  rw [h.order_eq, List.filterMap_map]
  exact (List.filterMap_congr hfound).trans List.filterMap_some

theorem bootstrapNodes_eq (h : k.Represents d) : k.bootstrapNodes = d.bootstrapNodes := by
  unfold IndexedDefinition.bootstrapNodes Definition.bootstrapNodes
  rw [h.chain_eq]
  exact List.filterMap_congr fun peer _ => h.table_eq peer.node

theorem regularNodes_eq (h : k.Represents d) (hd : d.Consistent) :
    k.regularNodes = d.regularNodes := by
  unfold IndexedDefinition.regularNodes Definition.regularNodes
  rw [h.nodes_eq hd]

/-- **The table holds no node that the order does not name**: it holds as many
as there are. -/
theorem size_eq (h : k.Represents d) (hd : d.Consistent) : k.size = d.nodes.length := by
  have hkeys : k.table.keys.Perm (d.nodes.map NodeConfig.id) := by
    refine (List.perm_ext_iff_of_nodup Std.HashMap.nodup_keys hd.nodup).2 fun id => ?_
    rw [Std.HashMap.mem_keys, ← Std.HashMap.contains_iff_mem, h.contains_eq,
      Definition.contains_iff, List.mem_map]
  rw [IndexedDefinition.size, ← Std.HashMap.length_keys, hkeys.length_eq, List.length_map]

end Represents

end IndexedDefinition

end LedgerNet
