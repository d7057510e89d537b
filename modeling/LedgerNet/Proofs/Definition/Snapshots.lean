import LedgerNet.Proofs.Definition.Edits
import Mathlib.Data.List.Induction

/-!
# Snapshots follow the chain

A node is stamped with the bootstrap chain when it is added, and from then on
the chain grows and shrinks while the stamp stays as it is. What the stamp
still says about the chain is the subject of this module: of the peers in
it, those that are still defined are the bootstrap nodes that stand before
the node, in their order and under their identities. For a bootstrap node
that is the part of the chain before its own entry, for a regular node some
beginning of the chain.

This needs that **no id comes back**. An id that is removed and added again
would be found in the stamps that were made before its removal, though the
node that has it now came later. So the invariant carries along where the
peers of a stamp can have gone: they are defined, or their id was removed
(`Snapshots.known`), and with no id coming back a node that is added is in
no stamp that is already there.
-/

namespace LedgerNet

namespace Definition

variable {d : Definition} {edits : List Edit}

/-- The peers of a stamp that are still defined. -/
def stillDefined (d : Definition) (peers : List Peer) : List Peer :=
  peers.filter fun peer => d.contains peer.node

/-- An id was removed by one of some edits: it was there before a removal of
it. -/
def RemovedBy (d : Definition) (edits : List Edit) (id : String) : Prop :=
  ∃ before after, edits = before ++ .remove id :: after
    ∧ (d.editedAll before).contains id = true

/-- **No id comes back**: an addition that succeeds is never that of an id
which an earlier edit removed. -/
def NoReturn (d : Definition) (edits : List Edit) : Prop :=
  ∀ before params after, edits = before ++ .add params :: after →
    (d.editedAll before).objection? params = none → ¬ d.RemovedBy before params.id

/-- What was removed by some edits is removed by more of them. -/
theorem RemovedBy.append {id : String} (h : d.RemovedBy edits id) (more : List Edit) :
    d.RemovedBy (edits ++ more) id := by
  obtain ⟨before, after, rfl, hid⟩ := h
  exact ⟨before, after ++ more, by simp, hid⟩

/-- No id comes back in the beginning of a list of edits. -/
theorem NoReturn.left {more : List Edit} (h : d.NoReturn (edits ++ more)) : d.NoReturn edits := by
  intro before params after hsplit
  exact h before params (after ++ more) (by simp [hsplit])

/-! ## The invariant -/

/-- **What the stamps of a definition say about its chain**, where the ids
that are `gone` have been removed. -/
structure Snapshots (gone : String → Prop) (d : Definition) : Prop where
  consistent : d.Consistent
  /-- What is still defined of a stamp is the bootstrap nodes before. -/
  stamped : ∀ before node after, d.nodes = before ++ node :: after →
    d.stillDefined node.dependsOn = chainOf before
  /-- A peer that is not defined any more has been removed. -/
  known : ∀ node ∈ d.nodes, ∀ peer ∈ node.dependsOn,
    d.contains peer.node = true ∨ gone peer.node

/-- All of the chain is defined. -/
theorem Consistent.stillDefined_chain (h : d.Consistent) : d.stillDefined d.chain = d.chain := by
  refine List.filter_eq_self.2 fun peer hpeer => contains_iff.2 ?_
  rw [h.chain_eq_chainOf] at hpeer
  obtain ⟨node, hmem, -, rfl⟩ := mem_chainOf.1 hpeer
  exact ⟨node, hmem, rfl⟩

namespace Snapshots

variable {gone : String → Prop}

/-- A network without nodes has no stamps. -/
theorem of_nodes_eq_nil (h : d.Consistent) (hnodes : d.nodes = []) : Snapshots gone d where
  consistent := h
  stamped before node after hsplit := absurd (hnodes.symm.trans hsplit) (by simp)
  known node hmem := absurd (hnodes ▸ hmem) List.not_mem_nil

/-- More ids may be gone. -/
theorem mono {more : String → Prop} (h : Snapshots gone d) (hmore : ∀ id, gone id → more id) :
    Snapshots more d where
  consistent := h.consistent
  stamped := h.stamped
  known node hmem peer hpeer := (h.known node hmem peer hpeer).imp_right (hmore peer.node)

/-- **Adding a node whose id is not gone** leaves the stamps what they were:
the new id is in none of them. -/
theorem extended {params : NodeParams} (h : Snapshots gone d)
    (hobjection : d.objection? params = none) (hgone : ¬ gone params.id) :
    Snapshots gone (d.extended params) where
  consistent := h.consistent.extended hobjection
  stamped before node after hsplit := by
    obtain ⟨-, hfresh⟩ := fresh_of_accepted hobjection
    have hkeep : ∀ peers : List Peer, (∀ peer ∈ peers, peer.node ≠ params.id) →
        (d.extended params).stillDefined peers = d.stillDefined peers := by
      intro peers hpeers
      refine List.filter_congr fun peer hpeer => ?_
      rw [contains_extended, beq_eq_false_iff_ne.2 (hpeers peer hpeer).symm, Bool.or_false]
    have hchain : ∀ peer ∈ d.chain, peer.node ≠ params.id := by
      intro peer hpeer heq
      rw [h.consistent.chain_eq_chainOf] at hpeer
      obtain ⟨other, hmem, -, rfl⟩ := mem_chainOf.1 hpeer
      exact contains_eq_false_iff.1 hfresh other hmem heq
    -- the node is the new one, or it stood there before
    rcases List.eq_nil_or_concat after with rfl | ⟨after, last, rfl⟩
    · obtain ⟨rfl, hlast⟩ := List.append_inj' hsplit rfl
      obtain rfl := (List.singleton_inj.1 hlast).symm
      rw [hkeep _ hchain, h.consistent.stillDefined_chain, h.consistent.chain_eq_chainOf]
    · rw [List.concat_eq_append, ← List.cons_append, ← List.append_assoc] at hsplit
      obtain ⟨hnodes, -⟩ := List.append_inj' hsplit rfl
      rw [hkeep _ ?_, h.stamped before node after hnodes]
      intro peer hpeer heq
      have hmem : node ∈ d.nodes := by simp [hnodes]
      rcases h.known node hmem peer hpeer with hdefined | hpeergone
      · rw [heq, hfresh] at hdefined
        exact Bool.false_ne_true hdefined
      · exact hgone (heq ▸ hpeergone)
  known node hmem peer hpeer := by
    rw [contains_extended]
    simp only [Definition.extended, List.mem_append, List.mem_singleton] at hmem
    obtain hmem | rfl := hmem
    · refine (h.known node hmem peer hpeer).imp_left fun hdefined => ?_
      rw [hdefined, Bool.true_or]
    · have hdefined := List.filter_eq_self.1 h.consistent.stillDefined_chain peer hpeer
      exact Or.inl (by rw [hdefined, Bool.true_or])

/-- **Leaving a node out** takes it out of what is still defined of every
stamp, and out of what stands before every node. -/
theorem without (h : Snapshots gone d) (id : String) :
    Snapshots (fun other => gone other ∨ other = id) (d.without id) where
  consistent := h.consistent.without id
  stamped before node after hsplit := by
    -- the nodes before the split are those before it in the whole list
    obtain ⟨front, rest, hnodes, hbefore, hrest⟩ := List.filter_eq_append_iff.1 hsplit
    obtain ⟨skipped, after', rfl, hskipped, -, -⟩ := List.filter_eq_cons_iff.1 hrest
    have hstamp := h.stamped (front ++ skipped) node after' (by rw [hnodes, List.append_assoc])
    have hskip : skipped.filter (·.id != id) = [] := List.filter_eq_nil_iff.2 hskipped
    calc (d.without id).stillDefined node.dependsOn
        = (d.stillDefined node.dependsOn).filter (·.node != id) := by
          unfold stillDefined
          rw [List.filter_filter]
          refine List.filter_congr fun peer _ => ?_
          rw [contains_without, Bool.and_comm]
      _ = chainOf ((front ++ skipped).filter (·.id != id)) := by
          rw [hstamp, chainOf_filter]
      _ = chainOf before := by
          rw [List.filter_append, hskip, List.append_nil, hbefore]
  known node hmem peer hpeer := by
    rw [contains_without]
    rcases h.known node (List.mem_filter.1 hmem).1 peer hpeer with hdefined | hgone
    · by_cases heq : peer.node = id
      · exact Or.inr (Or.inr heq)
      · exact Or.inl (by rw [hdefined, bne_iff_ne.2 heq, Bool.and_self])
    · exact Or.inr (Or.inl hgone)

/-- **The stamps after some edits**, if no id comes back. The induction is
on the last edit: what may be gone are the ids that the edits before it
removed. -/
theorem editedAll (h : ∀ gone, Snapshots gone d) (hreturn : d.NoReturn edits) :
    Snapshots (d.RemovedBy edits) (d.editedAll edits) := by
  induction edits using List.reverseRecOn with
  | nil => exact h _
  | append_singleton edits edit ih =>
    have before := ih hreturn.left
    rw [editedAll_append, editedAll_singleton]
    cases edit with
    | add params =>
      cases hobjection : (d.editedAll edits).objection? params with
      | some cause =>
        rw [edited_add_of_refused hobjection]
        exact before.mono fun id hid => hid.append _
      | none =>
        rw [edited_add_of_accepted hobjection]
        have hgone := hreturn edits params [] rfl hobjection
        exact (before.extended hobjection hgone).mono fun id hid => hid.append _
    | remove id =>
      rw [before.consistent.edited_remove]
      cases hid : (d.editedAll edits).contains id with
      | true =>
        refine (before.without id).mono fun other hother => ?_
        obtain hother | rfl := hother
        · exact hother.append _
        · exact ⟨edits, [], rfl, hid⟩
      | false =>
        rw [before.consistent.without_eq_self hid]
        exact before.mono fun other hother => hother.append _

/-- **The node of an entry of the chain**: what is still defined of its
stamp is the chain before the entry. -/
theorem bootstrap (h : Snapshots gone d) {position : Nat} {peer : Peer}
    (hpeer : d.chain[position]? = some peer) :
    ∃ node ∈ d.nodes, d.node? peer.node = some node ∧ node.asPeer = peer
      ∧ d.stillDefined node.dependsOn = d.chain.take position := by
  have hchain := h.consistent.chain_eq_chainOf
  obtain ⟨hlt, hget⟩ := List.getElem?_eq_some_iff.1 hpeer
  have hsplit : chainOf d.nodes = d.chain.take position ++ peer :: d.chain.drop (position + 1) := by
    rw [← hchain, ← hget, ← List.drop_eq_getElem_cons hlt, List.take_append_drop]
  -- the entry comes from a node, and the entries before it from those before it
  obtain ⟨front, rest, hbootstrap, hfront, hrest⟩ := List.map_eq_append_iff.1 hsplit
  obtain ⟨node, later, rfl, rfl, -⟩ := List.map_eq_cons_iff.1 hrest
  obtain ⟨before, rest, hnodes, hbefore, hrest⟩ := List.filter_eq_append_iff.1 hbootstrap
  obtain ⟨skipped, after, rfl, hskipped, -, -⟩ := List.filter_eq_cons_iff.1 hrest
  have hmem : node ∈ d.nodes := by simp [hnodes]
  refine ⟨node, hmem, h.consistent.node?_eq hmem, rfl, ?_⟩
  rw [h.stamped (before ++ skipped) node after (by rw [hnodes, List.append_assoc]), ← hfront]
  unfold chainOf
  rw [List.filter_append, hbefore, List.filter_eq_nil_iff.2 hskipped, List.append_nil]

/-- Where nothing is gone, all of every stamp is still defined. -/
theorem stillDefined_eq_self (h : Snapshots gone d) (hgone : ∀ id, ¬ gone id) {node : NodeConfig}
    (hmem : node ∈ d.nodes) : d.stillDefined node.dependsOn = node.dependsOn := by
  refine List.filter_eq_self.2 fun peer hpeer => ?_
  exact (h.known node hmem peer hpeer).resolve_right (hgone peer.node)

end Snapshots

/-! ## The chain in the stamps -/

/-- **Snapshots follow the chain.** After any edits in which no id comes
back, what is still defined of the stamp of the node at a position of the
chain is the chain before that position, ids and identities, and what is
still defined of the stamp of a regular node is a beginning of the chain:
the bootstrap nodes that were added before it. Where nothing was removed,
the whole stamp of a bootstrap node is the chain before it. -/
theorem dependsOn_follows_chain {params : NetworkParams} {empty : Definition}
    (hempty : Definition.ofParams params = .ok empty) (edits : List Edit)
    (hreturn : empty.NoReturn edits) :
    (∀ position peer, (empty.editedAll edits).chain[position]? = some peer →
      ∃ node, (empty.editedAll edits).node? peer.node = some node ∧ node.asPeer = peer
        ∧ (empty.editedAll edits).stillDefined node.dependsOn
          = (empty.editedAll edits).chain.take position)
    ∧ (∀ before node after, (empty.editedAll edits).nodes = before ++ node :: after →
        node.isBootstrap = false →
        (empty.editedAll edits).stillDefined node.dependsOn
            = (before.filter NodeConfig.isBootstrap).map NodeConfig.asPeer
          ∧ (empty.editedAll edits).stillDefined node.dependsOn
            <+: (empty.editedAll edits).chain)
    ∧ ((∀ id, Edit.remove id ∉ edits) →
        ∀ position peer, (empty.editedAll edits).chain[position]? = some peer →
        ∃ node, (empty.editedAll edits).node? peer.node = some node ∧ node.asPeer = peer
          ∧ node.dependsOn = (empty.editedAll edits).chain.take position) := by
  have hstart : ∀ gone, Snapshots gone empty := by
    have hnodes : empty.nodes = [] := by rw [ofParams_eq_ok hempty]
    exact fun gone => Snapshots.of_nodes_eq_nil (Consistent.ofParams hempty) hnodes
  have hsnapshots := Snapshots.editedAll hstart hreturn
  generalize empty.editedAll edits = d at hsnapshots ⊢
  refine ⟨?_, ?_, ?_⟩
  · intro position peer hpeer
    obtain ⟨node, -, hfound, hentry, hstamp⟩ := hsnapshots.bootstrap hpeer
    exact ⟨node, hfound, hentry, hstamp⟩
  · intro before node after hsplit _
    have hstamp := hsnapshots.stamped before node after hsplit
    refine ⟨hstamp, ?_⟩
    rw [hstamp, hsnapshots.consistent.chain_eq_chainOf, hsplit, chainOf_append]
    exact List.prefix_append _ _
  · intro hkept position peer hpeer
    obtain ⟨node, hmem, hfound, hentry, hstamp⟩ := hsnapshots.bootstrap hpeer
    refine ⟨node, hfound, hentry, ?_⟩
    rw [← hstamp, hsnapshots.stillDefined_eq_self ?_ hmem]
    rintro id ⟨before, after, hedits, -⟩
    exact hkept id (by simp [hedits])

/-- A bootstrap node that is removed again: the one after it keeps its entry in the stamp, the one
that is added later is stamped with what the chain is by then. -/
theorem dependsOn_follows_chain_after_removal :
    let member (id : String) : NodeParams :=
      { NodeParams.plain .empty id with role := .bootstrap 0 }
    let edits : List Edit :=
      [.add (member "b1"), .add (member "b2"), .remove "b1", .add (member "b3")]
    let empty : Definition := ⟨⟨"node", 1, 1, 1⟩, [], []⟩
    ofParams ⟨"node", 1, 1, 1⟩ = .ok empty ∧ empty.NoReturn edits
      ∧ (empty.editedAll edits).chain = [⟨"b2", "b2"⟩, ⟨"b3", "b3"⟩]
      ∧ ∃ node, (empty.editedAll edits).node? "b3" = some node
        ∧ (empty.editedAll edits).stillDefined node.dependsOn = [⟨"b2", "b2"⟩] := by
  intro member edits empty
  have hempty : ofParams ⟨"node", 1, 1, 1⟩ = .ok empty := by decide
  have hreturn : empty.NoReturn edits := by
    rintro before params after hsplit - ⟨earlier, later, rfl, -⟩
    rcases earlier with _ | ⟨_, _ | ⟨_, _ | ⟨_, _ | _⟩⟩⟩ <;>
      simp [edits, member, NodeParams.plain] at hsplit
    rcases later with _ | _ <;> simp at hsplit
    obtain ⟨-, -, hid, hparams, -⟩ := hsplit
    rw [← hparams] at hid
    exact absurd hid (by decide)
  have hchain : (empty.editedAll edits).chain = [⟨"b2", "b2"⟩, ⟨"b3", "b3"⟩] := by decide
  refine ⟨hempty, hreturn, hchain, ?_⟩
  obtain ⟨node, hfound, -, hstamp⟩ :=
    (dependsOn_follows_chain hempty edits hreturn).1 1 ⟨"b3", "b3"⟩ (by rw [hchain]; rfl)
  exact ⟨node, hfound, hstamp.trans (by rw [hchain]; rfl)⟩

end Definition

end LedgerNet
