import LedgerNet.Proofs.Definition.Indexed
import Mathlib.Data.List.Induction

/-!
# What the views show

An id can be added, removed and added again, so one list of edits can hold
several additions of it, some of them refused. What is defined at the end
is told by the edits alone: a node **stands** since a moment at which its
addition was accepted if no later edit removes its id. While it stands its
id is taken, so that moment is the last one at which the id was added
(`StandsSince.latest`), and the nodes are in the order of these moments
(`nodes_pairwise`).

The views of the definition leave none of these nodes out and show none of
them twice (`Views`). A definition with an index has the same views, since
after every edit it represents the definition without one.
-/

namespace LedgerNet

namespace Definition

variable {d : Definition} {edits : List Edit} {edit : Edit} {moment : Nat} {node : NodeConfig}

/-! ## Additions -/

/-- **A node was added at a moment**: the edit there asks for it, nothing
speaks against it then, and it is stamped with the chain as it is then. -/
structure AddedAt (d : Definition) (edits : List Edit) (moment : Nat) (node : NodeConfig) :
    Prop where
  asked : edits[moment]? = some (.add node.params)
  accepted : (d.editedAll (edits.take moment)).objection? node.params = none
  stamped : node.dependsOn = (d.editedAll (edits.take moment)).chain

/-- **A node stands since a moment**: it was added then, and nothing removed
it later. -/
structure StandsSince (d : Definition) (edits : List Edit) (moment : Nat) (node : NodeConfig) :
    Prop extends d.AddedAt edits moment node where
  kept : ∀ later, moment < later → edits[later]? ≠ some (.remove node.id)

namespace AddedAt

/-- A node is added by one of the edits. -/
theorem lt_length (h : d.AddedAt edits moment node) : moment < edits.length :=
  (List.getElem?_eq_some_iff.1 h.asked).1

/-- Edits that come later make no difference to an addition. -/
theorem append_iff (hlt : moment < edits.length) (more : List Edit) :
    d.AddedAt (edits ++ more) moment node ↔ d.AddedAt edits moment node := by
  have htake : (edits ++ more).take moment = edits.take moment :=
    List.take_append_of_le_length (Nat.le_of_lt hlt)
  constructor
  · rintro ⟨hasked, haccepted, hstamped⟩
    rw [htake] at haccepted hstamped
    exact ⟨by rwa [List.getElem?_append_left hlt] at hasked, haccepted, hstamped⟩
  · rintro ⟨hasked, haccepted, hstamped⟩
    refine ⟨by rwa [List.getElem?_append_left hlt], ?_, ?_⟩
    · rwa [htake]
    · rwa [htake]

/-- The addition that comes last. -/
theorem last_iff :
    d.AddedAt (edits ++ [edit]) edits.length node ↔
      edit = .add node.params ∧ (d.editedAll edits).objection? node.params = none
        ∧ node.dependsOn = (d.editedAll edits).chain := by
  have htake : (edits ++ [edit]).take edits.length = edits := List.take_left
  constructor
  · rintro ⟨hasked, haccepted, hstamped⟩
    rw [htake] at haccepted hstamped
    exact ⟨by simpa using hasked, haccepted, hstamped⟩
  · rintro ⟨rfl, haccepted, hstamped⟩
    exact ⟨by simp, by rwa [htake], by rwa [htake]⟩

end AddedAt

namespace StandsSince

/-- An edit that does not remove the id leaves a node standing. -/
theorem append (h : d.StandsSince edits moment node) (hedit : edit ≠ .remove node.id) :
    d.StandsSince (edits ++ [edit]) moment node where
  toAddedAt := (AddedAt.append_iff h.lt_length [edit]).2 h.toAddedAt
  kept later hlater := by
    rw [List.getElem?_append]
    split
    · exact h.kept later hlater
    · rw [List.getElem?_singleton]
      split <;> simp [hedit]

/-- A node that was just added stands. -/
theorem last {params : NodeParams} (hobjection : (d.editedAll edits).objection? params = none) :
    d.StandsSince (edits ++ [.add params]) edits.length ⟨params, (d.editedAll edits).chain⟩ where
  toAddedAt := AddedAt.last_iff.2 ⟨rfl, hobjection, rfl⟩
  kept later hlater := by
    rw [List.getElem?_eq_none (by simpa using Nat.succ_le_of_lt hlater)]
    exact (Option.some_ne_none _).symm

/-- A node that stands after an edit stood before it and was not removed by
it, or it was added by it. -/
theorem cases_append (h : d.StandsSince (edits ++ [edit]) moment node) :
    d.StandsSince edits moment node ∧ edit ≠ .remove node.id
      ∨ edit = .add node.params ∧ (d.editedAll edits).objection? node.params = none
        ∧ node.dependsOn = (d.editedAll edits).chain := by
  have hlt := h.lt_length
  rw [List.length_append, List.length_singleton] at hlt
  obtain hbefore | rfl := Nat.lt_succ_iff_lt_or_eq.1 hlt
  · refine .inl ⟨⟨(AddedAt.append_iff hbefore [edit]).1 h.toAddedAt, fun later hlater => ?_⟩, ?_⟩
    · intro hremoved
      have hlast := (List.getElem?_eq_some_iff.1 hremoved).1
      exact h.kept later hlater (by rwa [List.getElem?_append_left hlast])
    · rintro rfl
      exact h.kept edits.length hbefore (by simp)
  · exact .inr (AddedAt.last_iff.1 h.toAddedAt)

/-- What stands in the end stood at every moment since it was added. -/
theorem take (h : d.StandsSince edits moment node) {later : Nat} (hlater : moment < later) :
    d.StandsSince (edits.take later) moment node where
  asked := by rw [List.getElem?_take_of_lt hlater]; exact h.asked
  accepted := by rw [List.take_take, Nat.min_eq_left (Nat.le_of_lt hlater)]; exact h.accepted
  stamped := by rw [List.take_take, Nat.min_eq_left (Nat.le_of_lt hlater)]; exact h.stamped
  kept other hother := by
    rw [List.getElem?_take]
    split
    · exact h.kept other hother
    · exact (Option.some_ne_none _).symm

end StandsSince

/-! ## The nodes and their order -/

variable {start : Definition}

/-- **The nodes are those that stand.** -/
theorem mem_nodes_iff (hstart : start.Consistent) (hnodes : start.nodes = []) :
    node ∈ (start.editedAll edits).nodes ↔ ∃ moment, start.StandsSince edits moment node := by
  induction edits using List.reverseRecOn with
  | nil =>
    refine iff_of_false ?_ fun ⟨moment, h⟩ => absurd h.lt_length (Nat.not_lt_zero moment)
    rw [show start.editedAll [] = start from rfl, hnodes]
    exact List.not_mem_nil
  | append_singleton edits edit ih =>
    rw [editedAll_append, editedAll_singleton]
    cases edit with
    | remove id =>
      rw [(hstart.editedAll edits).edited_remove]
      simp only [without, List.mem_filter, bne_iff_ne, ih]
      constructor
      · rintro ⟨⟨moment, h⟩, hid⟩
        exact ⟨moment, h.append fun heq => hid (Edit.remove.inj heq).symm⟩
      · rintro ⟨moment, h⟩
        obtain ⟨hbefore, hid⟩ | ⟨hadd, -⟩ := h.cases_append
        · exact ⟨⟨moment, hbefore⟩, fun heq => hid (congrArg Edit.remove heq.symm)⟩
        · exact Edit.noConfusion hadd
    | add params =>
      cases hobjection : (start.editedAll edits).objection? params with
      | some cause =>
        rw [edited_add_of_refused hobjection, ih]
        refine exists_congr fun moment => ⟨fun h => h.append Edit.noConfusion, fun h => ?_⟩
        obtain ⟨hbefore, -⟩ | ⟨hadd, haccepted, -⟩ := h.cases_append
        · exact hbefore
        · rw [← Edit.add.inj hadd, hobjection] at haccepted
          exact absurd haccepted (Option.some_ne_none cause)
      | none =>
        rw [edited_add_of_accepted hobjection, extended, List.mem_append, List.mem_singleton, ih]
        constructor
        · rintro (⟨moment, h⟩ | rfl)
          · exact ⟨moment, h.append Edit.noConfusion⟩
          · exact ⟨edits.length, StandsSince.last hobjection⟩
        · rintro ⟨moment, h⟩
          obtain ⟨hbefore, -⟩ | ⟨hadd, -, hstamped⟩ := h.cases_append
          · exact .inl ⟨moment, hbefore⟩
          · obtain rfl := Edit.add.inj hadd
            exact .inr (by rw [← hstamped])

/-- **A node stands since the last moment at which its id was added**: from
then on the id is taken. -/
theorem StandsSince.latest (hstart : start.Consistent) (hnodes : start.nodes = [])
    (h : start.StandsSince edits moment node) {later : Nat} {other : NodeConfig}
    (hlater : moment < later) (hother : start.AddedAt edits later other) : other.id ≠ node.id := by
  intro hid
  have hmem := (mem_nodes_iff hstart hnodes).2 ⟨moment, h.take hlater⟩
  exact contains_eq_false_iff.1 (fresh_of_accepted hother.accepted).2 node hmem hid.symm

/-- **The nodes are in the order of their last additions.** -/
theorem nodes_pairwise (hstart : start.Consistent) (hnodes : start.nodes = []) :
    (start.editedAll edits).nodes.Pairwise fun first second =>
      ∃ i j, i < j ∧ start.StandsSince edits i first ∧ start.StandsSince edits j second := by
  induction edits using List.reverseRecOn with
  | nil =>
    rw [show start.editedAll [] = start from rfl, hnodes]
    exact List.Pairwise.nil
  | append_singleton edits edit ih =>
    rw [editedAll_append, editedAll_singleton]
    cases edit with
    | remove id =>
      rw [(hstart.editedAll edits).edited_remove]
      refine (ih.sublist List.filter_sublist).imp_of_mem ?_
      rintro first second hfirst hsecond ⟨i, j, hlt, hi, hj⟩
      have hkeep : ∀ kept ∈ ((start.editedAll edits).without id).nodes,
          Edit.remove id ≠ .remove kept.id := by
        intro kept hkept heq
        exact bne_iff_ne.1 (List.mem_filter.1 hkept).2 (Edit.remove.inj heq).symm
      exact ⟨i, j, hlt, hi.append (hkeep first hfirst), hj.append (hkeep second hsecond)⟩
    | add params =>
      have hstill : (start.editedAll edits).nodes.Pairwise fun first second =>
          ∃ i j, i < j ∧ start.StandsSince (edits ++ [.add params]) i first
            ∧ start.StandsSince (edits ++ [.add params]) j second := by
        refine ih.imp ?_
        rintro first second ⟨i, j, hlt, hi, hj⟩
        exact ⟨i, j, hlt, hi.append Edit.noConfusion, hj.append Edit.noConfusion⟩
      cases hobjection : (start.editedAll edits).objection? params with
      | some cause =>
        rw [edited_add_of_refused hobjection]
        exact hstill
      | none =>
        rw [edited_add_of_accepted hobjection]
        refine List.pairwise_append.2 ⟨hstill, List.pairwise_singleton _ _, ?_⟩
        intro first hfirst second hsecond
        obtain rfl := List.mem_singleton.1 hsecond
        -- the first one stood before the edit that adds the second one
        obtain ⟨i, hi⟩ := (mem_nodes_iff hstart hnodes).1 hfirst
        exact ⟨i, edits.length, hi.lt_length, hi.append Edit.noConfusion,
          StandsSince.last hobjection⟩

/-! ## The views -/

/-- **What the views of a definition show**: every node once and under its id, every bootstrap node
once in the chain, and no entry of the chain without its node. -/
structure Views (d : Definition) : Prop where
  ids_nodup : (d.nodes.map NodeConfig.id).Nodup
  ids_ne : ∀ node ∈ d.nodes, node.id ≠ ""
  found : ∀ id node, d.node? id = some node ↔ node ∈ d.nodes ∧ node.id = id
  chain_nodup : (d.chain.map Peer.node).Nodup
  chain_eq : d.chain = (d.nodes.filter NodeConfig.isBootstrap).map fun node =>
    ⟨node.id, node.identity⟩
  bootstrapNodes_eq : d.bootstrapNodes = d.nodes.filter NodeConfig.isBootstrap
  /-- Not one entry of the chain is passed over. -/
  bootstrapNodes_chain : d.bootstrapNodes.map NodeConfig.asPeer = d.chain
  parted : (d.bootstrapNodes ++ d.regularNodes).Perm d.nodes

theorem Consistent.views (h : d.Consistent) : d.Views where
  ids_nodup := h.nodup
  ids_ne := h.ids_ne
  found _ _ := h.node?_eq_some_iff
  chain_nodup := by
    rw [h.chain_eq, List.map_map]
    exact h.nodup.sublist (List.filter_sublist.map NodeConfig.id)
  chain_eq := h.chain_eq
  bootstrapNodes_eq := h.bootstrapNodes_eq
  bootstrapNodes_chain := by rw [h.bootstrapNodes_eq, ← h.chain_eq]
  parted := h.perm_nodes

/-- **The views show what the edits have left.** After any edits, refused additions and additions of
an id that was removed before among them: the views agree with each other, the nodes are those that
were added and not removed since, each of them stands since the last addition of its id and they are
in the order of these additions. A definition with an index goes through the same edits with the
same views, its table finds the same nodes, and it holds as many as there are. -/
theorem views_after_edits {params : NetworkParams} {empty : Definition}
    (hempty : Definition.ofParams params = .ok empty) (edits : List Edit) :
    (empty.editedAll edits).Views
    ∧ (∀ node, node ∈ (empty.editedAll edits).nodes ↔
        ∃ moment, empty.StandsSince edits moment node)
    ∧ (∀ moment node, empty.StandsSince edits moment node →
        ∀ later other, moment < later → empty.AddedAt edits later other → other.id ≠ node.id)
    ∧ (empty.editedAll edits).nodes.Pairwise (fun first second =>
        ∃ i j, i < j ∧ empty.StandsSince edits i first ∧ empty.StandsSince edits j second)
    ∧ ∃ start, IndexedDefinition.ofParams params = .ok start
      ∧ (start.editedAll edits).Represents (empty.editedAll edits)
      ∧ (start.editedAll edits).nodes = (empty.editedAll edits).nodes
      ∧ (start.editedAll edits).bootstrapNodes = (empty.editedAll edits).bootstrapNodes
      ∧ (start.editedAll edits).regularNodes = (empty.editedAll edits).regularNodes
      ∧ (start.editedAll edits).size = (empty.editedAll edits).nodes.length := by
  have hconsistent := Consistent.ofParams hempty
  have hnodes : empty.nodes = [] := by rw [ofParams_eq_ok hempty]
  have hedited := hconsistent.editedAll edits
  obtain ⟨start, hstart, hrepresents⟩ := IndexedDefinition.Represents.ofParams hempty
  have hindex := hrepresents.editedAll edits
  refine ⟨hedited.views, fun node => mem_nodes_iff hconsistent hnodes, ?_,
    nodes_pairwise hconsistent hnodes, start, hstart, hindex, hindex.nodes_eq hedited,
    hindex.bootstrapNodes_eq, hindex.regularNodes_eq hedited, hindex.size_eq hedited⟩
  exact fun moment node h later other => h.latest hconsistent hnodes

/-- An id that is added twice, removed and added again: the second addition is refused, and the node
that is shown is the one of the last addition, after the node that was added in between. -/
theorem views_after_readdition :
    let member (id : String) : NodeParams :=
      { NodeParams.plain .empty id with role := .bootstrap 0 }
    let edits : List Edit :=
      [.add (member "b1"), .add (member "b1"), .add (member "b2"), .remove "b1",
        .add (member "b1")]
    let empty : Definition := ⟨⟨"node", 1, 1, 1⟩, [], []⟩
    ofParams ⟨"node", 1, 1, 1⟩ = .ok empty
      ∧ (empty.editedAll (edits.take 1)).objection? (member "b1") = some (.duplicateNode "b1")
      ∧ (empty.editedAll edits).nodes.map NodeConfig.id = ["b2", "b1"]
      ∧ (empty.editedAll edits).bootstrapNodes.map NodeConfig.asPeer
        = [⟨"b2", "b2"⟩, ⟨"b1", "b1"⟩]
      ∧ ∃ node, (empty.editedAll edits).node? "b1" = some node
        ∧ empty.StandsSince edits 4 node := by
  intro member edits empty
  have hempty : ofParams ⟨"node", 1, 1, 1⟩ = .ok empty := by decide
  have hchain : (empty.editedAll edits).chain = [⟨"b2", "b2"⟩, ⟨"b1", "b1"⟩] := by decide
  obtain ⟨hviews, hmem, hlatest, -⟩ := views_after_edits hempty edits
  refine ⟨hempty, by decide, by decide, hviews.bootstrapNodes_chain.trans hchain, ?_⟩
  refine ⟨⟨member "b1", [⟨"b2", "b2"⟩]⟩, by decide, ?_⟩
  obtain ⟨moment, hstands⟩ := (hmem ⟨member "b1", [⟨"b2", "b2"⟩]⟩).1 (by decide)
  -- the id is added at the fourth moment, and it is not added after it stands
  have hadded : empty.AddedAt edits 4 ⟨member "b1", [⟨"b2", "b2"⟩]⟩ :=
    ⟨rfl, by decide, by decide⟩
  have hlast : ¬ moment < 4 := fun hlt => hlatest moment _ hstands 4 _ hlt hadded rfl
  have hlt : moment < 5 := hstands.lt_length
  rwa [show moment = 4 by omega] at hstands

end Definition

end LedgerNet
