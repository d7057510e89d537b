import LedgerNet.Proofs.Definition.Snapshots
import LedgerNet.Staking.Scenario

/-!
# Definitions that only grow

The network of a scenario is put together by adding nodes, and nothing is
ever taken out of it. In such a definition the stamp of a node is the chain
as it stood before the node (`Definition.Intact`), and a node can be added if
its id is new and if it asks for the place that is next. That regular nodes
are taken out makes no difference to this, since they are in no stamp. The
ids of a scenario are counted, so they are different ones however many stakers
there are.
-/

namespace LedgerNet

/-! ## Ids that are counted -/

/-- Names that are counted are different ones. -/
theorem append_toString_injective (name : String) :
    Function.Injective fun n : Nat => name ++ toString n := by
  intro i j h
  have hrepr : i.repr = j.repr := (String.append_right_inj name).1 h
  have hdigits : Nat.toDigits 10 i = Nat.toDigits 10 j := by
    rw [← Nat.toList_repr, hrepr, Nat.toList_repr]
  calc i = Nat.ofDigitChars 10 (Nat.toDigits 10 i) 0 := Nat.ofDigitChars_ten_toDigits.symm
    _ = Nat.ofDigitChars 10 (Nat.toDigits 10 j) 0 := by rw [hdigits]
    _ = j := Nat.ofDigitChars_ten_toDigits

theorem bootstrapNodeId_injective : Function.Injective bootstrapNodeId :=
  append_toString_injective "bootstrap-node-"

theorem Site.addedNodeId_injective : Function.Injective Site.addedNodeId :=
  append_toString_injective "new-node-"

/-- Texts that begin with different letters are different ones. -/
theorem ne_of_head?_ne {s t : String} (h : s.toList.head? ≠ t.toList.head?) : s ≠ t :=
  fun heq => h (by rw [heq])

theorem head?_bootstrapNodeId (ordinal : Nat) :
    (bootstrapNodeId ordinal).toList.head? = some 'b' := by
  simp [bootstrapNodeId, String.toList_append]

theorem Site.head?_addedNodeId (index : Nat) :
    (addedNodeId index).toList.head? = some 'n' := by
  simp [addedNodeId, String.toList_append]

/-- A name that is told apart from all others is not among those before
it. -/
theorem notMem_of_nodup_append {names more : List String} {name : String}
    (h : (names ++ name :: more).Nodup) : name ∉ names := by
  have hmiddle := (List.nodup_cons.1 (List.nodup_middle.1 h)).1
  exact fun hmem => hmiddle (List.mem_append_left more hmem)

namespace Definition

variable {d : Definition} {params : NodeParams} {env : Environment}

/-! ## Nothing was taken out -/

/-- **A definition from which nothing was taken out** that is in a stamp. -/
abbrev Intact (d : Definition) : Prop := Snapshots (fun _ => False) d

namespace Intact

/-- A network without nodes. -/
theorem ofParams {params : NetworkParams} {empty : Definition}
    (h : Definition.ofParams params = .ok empty) : empty.Intact :=
  Snapshots.of_nodes_eq_nil (Consistent.ofParams h) (by rw [ofParams_eq_ok h])

/-- **The stamp of a node** is the chain as it stood before the node. -/
theorem dependsOn_eq (h : d.Intact) {before after : List NodeConfig} {node : NodeConfig}
    (hsplit : d.nodes = before ++ node :: after) : node.dependsOn = chainOf before := by
  have hmem : node ∈ d.nodes := by simp [hsplit]
  rw [← h.stamped before node after hsplit, h.stillDefined_eq_self (fun _ => id) hmem]

/-- **Adding a node** with a new id that asks for no place in the chain, or
for the next one. -/
theorem add (h : d.Intact) (hempty : params.id ≠ "")
    (hnew : params.id ∉ d.nodes.map NodeConfig.id)
    (hrole : ∀ ordinal, params.role = .bootstrap ordinal → ordinal = d.chain.length + 1) :
    d.add params = .ok (d.extended params) ∧ (d.extended params).Intact := by
  have hfresh : d.contains params.id = false :=
    contains_eq_false_iff.2 fun node hmem heq => hnew (heq ▸ List.mem_map_of_mem hmem)
  have hobjection := objection?_eq_none hempty hfresh hrole
  refine ⟨?_, h.extended hobjection id⟩
  unfold Definition.add
  rw [hobjection]

/-- The bootstrap nodes in the order of the chain are those in the order in
which they were added. -/
theorem bootstrapNodes_eq (h : d.Intact) :
    d.bootstrapNodes = d.nodes.filter NodeConfig.isBootstrap :=
  h.consistent.bootstrapNodes_eq

/-- **A bootstrap node depends on those before it.** -/
theorem dependsOn_eq_of_bootstrapNodes (h : d.Intact) {before after : List NodeConfig}
    {node : NodeConfig} (hsplit : d.bootstrapNodes = before ++ node :: after) :
    node.dependsOn = before.map NodeConfig.asPeer := by
  rw [h.bootstrapNodes_eq] at hsplit
  obtain ⟨front, rest, hnodes, hbefore, hrest⟩ := List.filter_eq_append_iff.1 hsplit
  obtain ⟨skipped, after, rfl, hskipped, -, -⟩ := List.filter_eq_cons_iff.1 hrest
  have hstamp : node.dependsOn = chainOf (front ++ skipped) :=
    h.dependsOn_eq (by rw [hnodes, List.append_assoc])
  rw [hstamp, chainOf, List.filter_append, List.filter_eq_nil_iff.2 hskipped, List.append_nil,
    hbefore]

/-- **A node depends on bootstrap nodes** only. -/
theorem exists_bootstrapNode_of_dependsOn (h : d.Intact) {node : NodeConfig}
    (hmem : node ∈ d.nodes) {peer : Peer} (hpeer : peer ∈ node.dependsOn) :
    ∃ other ∈ d.bootstrapNodes, other.asPeer = peer := by
  obtain ⟨before, after, hsplit⟩ := List.append_of_mem hmem
  rw [h.dependsOn_eq hsplit] at hpeer
  obtain ⟨other, hother, hbootstrap, rfl⟩ := mem_chainOf.1 hpeer
  have hdefined : other ∈ d.nodes := by simp [hsplit, hother]
  rw [h.bootstrapNodes_eq]
  exact ⟨other, List.mem_filter.2 ⟨hdefined, hbootstrap⟩, rfl⟩

/-- The bootstrap nodes and then the others are all nodes, in an order of
their own. -/
theorem perm_nodes (h : d.Intact) : (d.bootstrapNodes ++ d.regularNodes).Perm d.nodes :=
  h.consistent.perm_nodes

/-- **What a node depends on comes before it** where the bootstrap nodes come
first: a regular node has all of them before it, and a bootstrap node those
that it depends on. -/
theorem exists_before_of_dependsOn (h : d.Intact) {before after : List NodeConfig}
    {node : NodeConfig} (hsplit : d.bootstrapNodes ++ d.regularNodes = before ++ node :: after)
    {peer : Peer} (hpeer : peer ∈ node.dependsOn) : ∃ other ∈ before, other.asPeer = peer := by
  have hmem : node ∈ d.nodes := h.perm_nodes.mem_iff.1 (by simp [hsplit])
  have hbootstrap := h.exists_bootstrapNode_of_dependsOn hmem hpeer
  rcases List.append_eq_append_iff.1 hsplit with ⟨passed, rfl, -⟩ | ⟨left, hleft, hrest⟩
  · obtain ⟨other, hother, rfl⟩ := hbootstrap
    exact ⟨other, List.mem_append_left passed hother, rfl⟩
  · cases left with
    | nil =>
      rw [List.append_nil] at hleft
      rwa [hleft] at hbootstrap
    | cons first rest =>
      obtain rfl : node = first := (List.cons.inj hrest).1
      rw [h.dependsOn_eq_of_bootstrapNodes hleft] at hpeer
      exact List.mem_map.1 hpeer

/-- All of a stamp is in the chain. -/
theorem mem_chain_of_dependsOn (h : d.Intact) {node : NodeConfig} (hmem : node ∈ d.nodes)
    {peer : Peer} (hpeer : peer ∈ node.dependsOn) : peer ∈ d.chain := by
  obtain ⟨other, hother, rfl⟩ := h.exists_bootstrapNode_of_dependsOn hmem hpeer
  rw [h.bootstrapNodes_eq] at hother
  rw [h.consistent.chain_eq]
  exact List.mem_map_of_mem hother

/-- **Taking out a node that is not in the chain** takes nothing out of the
stamps. -/
theorem without (h : d.Intact) {id : String} (hid : ∀ peer ∈ d.chain, peer.node ≠ id) :
    (d.without id).Intact where
  consistent := h.consistent.without id
  stamped := (Snapshots.without h id).stamped
  known node hmem peer hpeer := by
    have hstamped := h.mem_chain_of_dependsOn (List.mem_filter.1 hmem).1 hpeer
    exact ((Snapshots.without h id).known node hmem peer hpeer).imp_right fun hgone =>
      hid peer hstamped (hgone.resolve_left fun hnever => hnever)

end Intact

/-- **Edits that leave the chain alone**: what one of them removes is not in
the chain by then. -/
def SpareChain (d : Definition) (edits : List Edit) : Prop :=
  ∀ before id after, edits = before ++ .remove id :: after →
    ∀ peer ∈ (d.editedAll before).chain, peer.node ≠ id

/-- **A definition after edits that leave its chain alone**: nodes of either
kind are added, and regular nodes are removed. -/
theorem Intact.editedAll (h : d.Intact) {edits : List Edit} (hspare : d.SpareChain edits) :
    (d.editedAll edits).Intact := by
  induction edits generalizing d with
  | nil => exact h
  | cons edit edits ih =>
    refine ih ?_ fun before id after hsplit =>
      hspare (edit :: before) id after (by rw [hsplit]; rfl)
    cases edit with
    | add params =>
      cases hobjection : d.objection? params with
      | none =>
        rw [edited_add_of_accepted hobjection]
        exact h.extended hobjection id
      | some cause =>
        rw [edited_add_of_refused hobjection]
        exact h
    | remove id =>
      rw [h.consistent.edited_remove]
      exact h.without (hspare [] id edits rfl)

/-! ## Adding several nodes -/

/-- The ids of a definition, as they were asked for. -/
theorem map_id_eq (d : Definition) :
    d.nodes.map NodeConfig.id = (d.nodes.map NodeConfig.params).map NodeParams.id := by
  rw [List.map_map]
  rfl

theorem map_params_extended :
    (d.extended params).nodes.map NodeConfig.params
      = d.nodes.map NodeConfig.params ++ [params] := by
  simp [extended]

/-- A node with a new id is added, and then others are. -/
theorem addAll_cons_of_add {more : List NodeParams} (h : d.add params = .ok (d.extended params)) :
    d.addAll (params :: more) = (d.extended params).addAll more := by
  unfold addAll
  rw [List.foldlM_cons, h]
  rfl

/-- **Adding regular nodes** with new ids. -/
theorem Intact.addAll_regular (h : d.Intact) {more : List NodeParams}
    (hregular : ∀ params ∈ more, params.role = .regular)
    (hempty : ∀ params ∈ more, params.id ≠ "")
    (hnodup : (d.nodes.map NodeConfig.id ++ more.map NodeParams.id).Nodup) :
    ∃ extended, d.addAll more = .ok extended ∧ extended.Intact
      ∧ extended.nodes.map NodeConfig.params = d.nodes.map NodeConfig.params ++ more := by
  induction more generalizing d with
  | nil => exact ⟨d, rfl, h, by simp⟩
  | cons params rest ih =>
    obtain ⟨hrole, hregular⟩ := List.forall_mem_cons.1 hregular
    obtain ⟨hid, hempty⟩ := List.forall_mem_cons.1 hempty
    have hnew : params.id ∉ d.nodes.map NodeConfig.id := notMem_of_nodup_append hnodup
    rw [List.map_cons, List.append_cons] at hnodup
    obtain ⟨hadd, hextended⟩ :=
      h.add hid hnew fun ordinal hbootstrap => by simp [hrole] at hbootstrap
    have hids : (d.extended params).nodes.map NodeConfig.id
        = d.nodes.map NodeConfig.id ++ [params.id] := by
      rw [map_id_eq, map_params_extended, List.map_append, ← map_id_eq]
      rfl
    obtain ⟨extended, hall, hintact, hparams⟩ := ih hextended hregular hempty (hids ▸ hnodup)
    refine ⟨extended, (addAll_cons_of_add hadd).trans hall, hintact, ?_⟩
    rw [hparams, map_params_extended, List.append_assoc]
    rfl

/-- **Adding the bootstrap nodes of some stakers**, from a position on that is
next in the chain, if no id from there on is taken. -/
theorem Intact.addAll_stakerNodes (h : d.Intact) {position : Nat} (stakers : List Staker)
    (hchain : d.chain.length + 1 = position)
    (hnew : ∀ ordinal, position ≤ ordinal → bootstrapNodeId ordinal ∉ d.nodes.map NodeConfig.id) :
    ∃ extended, d.addAll (stakerNodes env position stakers) = .ok extended ∧ extended.Intact
      ∧ extended.nodes.map NodeConfig.params
        = d.nodes.map NodeConfig.params ++ stakerNodes env position stakers := by
  induction stakers generalizing d position with
  | nil => exact ⟨d, rfl, h, by simp [stakerNodes]⟩
  | cons staker rest ih =>
    have hid : bootstrapNodeId position ≠ "" :=
      ne_of_head?_ne (by simp [head?_bootstrapNodeId])
    obtain ⟨hadd, hextended⟩ := @Intact.add d (stakerNode env position staker) h hid
      (hnew position (Nat.le_refl _)) fun ordinal hrole => by
        obtain rfl : position = ordinal := Role.bootstrap.inj hrole
        exact hchain.symm
    have hlength : (d.extended (stakerNode env position staker)).chain.length + 1
        = position + 1 := by
      rw [← hchain]
      exact congrArg Nat.succ List.length_append
    -- the id that was just taken is counted before those that follow
    have hlater : ∀ ordinal, position + 1 ≤ ordinal → bootstrapNodeId ordinal
        ∉ (d.extended (stakerNode env position staker)).nodes.map NodeConfig.id := by
      intro ordinal hle hmem
      rw [map_id_eq, map_params_extended, List.map_append, ← map_id_eq, List.mem_append] at hmem
      rcases hmem with hmem | hmem
      · exact hnew ordinal (by omega) hmem
      · have heq : ordinal = position := bootstrapNodeId_injective (List.mem_singleton.1 hmem)
        omega
    obtain ⟨extended, hall, hintact, hparams⟩ := ih hextended hlength hlater
    refine ⟨extended, (addAll_cons_of_add hadd).trans hall, hintact, ?_⟩
    rw [hparams, map_params_extended, List.append_assoc]
    rfl

end Definition

/-! ## The network of a scenario -/

/-- The ids of the bootstrap nodes of some stakers. -/
theorem map_id_stakerNodes (env : Environment) (position : Nat) (stakers : List Staker) :
    (stakerNodes env position stakers).map NodeParams.id
      = (List.range' position stakers.length).map bootstrapNodeId := by
  induction stakers generalizing position with
  | nil => rfl
  | cons staker rest ih =>
    rw [List.length_cons, List.range'_succ, List.map_cons, ← ih]
    rfl

/-- The nodes of stakers are bootstrap nodes. -/
theorem isBootstrap_of_mem_stakerNodes {env : Environment} {position : Nat} {stakers : List Staker}
    {params : NodeParams} (h : params ∈ stakerNodes env position stakers) :
    params.role.isBootstrap = true := by
  induction stakers generalizing position with
  | nil => exact absurd h List.not_mem_nil
  | cons staker rest ih =>
    rcases List.mem_cons.1 h with rfl | hrest
    · rfl
    · exact ih hrest

/-- An image that is not blank is all that the preset needs. -/
theorem NetworkParams.validate_withPresetConsensus {params : NetworkParams}
    (himage : Text.isBlankText params.image = false) :
    params.withPresetConsensus.validate = .ok () := by
  have hconsensus : ¬ (Conventions.presetSnowSize = 0
      ∨ Conventions.presetSnowSize < Conventions.presetSnowSize) := by decide
  have hblank : ¬ Text.isBlankText params.image = true := by simp [himage]
  exact (if_neg hblank).trans (if_neg hconsensus)

namespace Scenario

variable {scenario : Scenario} {env : Environment} {params : NetworkParams} {genesis : Genesis}

/-- The nodes that are asked for in a scenario. -/
def nodeParams (scenario : Scenario) (env : Environment) (genesis : Genesis) : List NodeParams :=
  stakerNodes env 1 genesis.stakers ++ [validatorId, delegatorId].map (scenario.stakingNode env)

/-- The ids of the nodes of a scenario. -/
def nodeIds (genesis : Genesis) : List String :=
  (List.range' 1 genesis.stakers.length).map bootstrapNodeId ++ [validatorId, delegatorId]

theorem map_id_nodeParams :
    (scenario.nodeParams env genesis).map NodeParams.id = nodeIds genesis := by
  unfold nodeParams nodeIds
  rw [List.map_append, map_id_stakerNodes, List.map_map]
  rfl

/-- **The ids of a scenario are different ones**, also from those of the nodes
that join in the end. -/
theorem nodup_nodeIds (genesis : Genesis) (added : Nat) :
    (nodeIds genesis ++ (List.range' 1 added).map Site.addedNodeId).Nodup := by
  have hbootstrap : ((List.range' 1 genesis.stakers.length).map bootstrapNodeId).Nodup :=
    List.Nodup.map bootstrapNodeId_injective List.nodup_range'
  have hadded : ((List.range' 1 added).map Site.addedNodeId).Nodup :=
    List.Nodup.map Site.addedNodeId_injective List.nodup_range'
  have hstaking : [validatorId, delegatorId].Nodup := by decide
  -- the three kinds begin with different letters
  refine List.nodup_append.2 ⟨List.nodup_append.2 ⟨hbootstrap, hstaking, ?_⟩, hadded, ?_⟩
  · intro id hid other hother
    obtain ⟨ordinal, -, rfl⟩ := List.mem_map.1 hid
    refine ne_of_head?_ne ?_
    rw [head?_bootstrapNodeId]
    rcases List.mem_pair.1 hother with rfl | rfl <;> decide
  · intro id hid other hother
    obtain ⟨index, -, rfl⟩ := List.mem_map.1 hother
    refine ne_of_head?_ne ?_
    rw [Site.head?_addedNodeId]
    rcases List.mem_append.1 hid with hid | hid
    · obtain ⟨ordinal, -, rfl⟩ := List.mem_map.1 hid
      rw [head?_bootstrapNodeId]
      decide
    · rcases List.mem_pair.1 hid with rfl | rfl <;> decide

/-- The nodes of a scenario start in the order in which they were asked for. -/
theorem map_id_startOrder {d : Definition} (h : d.Intact)
    (hparams : d.nodes.map NodeConfig.params = scenario.nodeParams env genesis) :
    (d.bootstrapNodes ++ d.regularNodes).map NodeConfig.id = nodeIds genesis := by
  obtain ⟨chained, staking, hnodes, hchained, hstaking⟩ := List.map_eq_append_iff.1 hparams
  have hbootstrap : ∀ node ∈ chained, node.isBootstrap = true := by
    intro node hmem
    exact isBootstrap_of_mem_stakerNodes (hchained ▸ List.mem_map_of_mem hmem)
  have hregular : ∀ node ∈ staking, node.isBootstrap = false := by
    intro node hmem
    have hasked : node.params ∈ [validatorId, delegatorId].map (scenario.stakingNode env) :=
      hstaking ▸ List.mem_map_of_mem hmem
    obtain ⟨id, -, hid⟩ := List.mem_map.1 hasked
    unfold NodeConfig.isBootstrap
    rw [← hid]
    rfl
  have hfirst : d.bootstrapNodes = chained := by
    rw [h.bootstrapNodes_eq, hnodes, List.filter_append, List.filter_eq_self.2 hbootstrap,
      List.filter_eq_nil_iff.2 fun node hmem => by simp [hregular node hmem], List.append_nil]
  have hsecond : d.regularNodes = staking := by
    unfold Definition.regularNodes
    rw [hnodes, List.filter_append,
      List.filter_eq_nil_iff.2 fun node hmem => by simp [hbootstrap node hmem],
      List.filter_eq_self.2 fun node hmem => by simp [hregular node hmem], List.nil_append]
  rw [hfirst, hsecond, ← hnodes, Definition.map_id_eq, hparams, map_id_nodeParams]

/-- **A scenario has a network**: its definition is not refused, and the nodes
are those that were asked for. -/
theorem definition_eq_ok (himage : Text.isBlankText params.image = false) :
    ∃ d, scenario.definition env params genesis = .ok d ∧ d.Intact
      ∧ d.nodes.map NodeConfig.params = scenario.nodeParams env genesis := by
  have hnodup := (List.nodup_append.1 (nodup_nodeIds genesis 0)).1
  obtain ⟨empty, hofParams⟩ : ∃ empty, Definition.ofParams
      ({ params with txFee := scenario.amounts.fee } : NetworkParams).withPresetConsensus
        = .ok empty := by
    unfold Definition.ofParams
    rw [@NetworkParams.validate_withPresetConsensus { params with txFee := scenario.amounts.fee }
      himage]
    exact ⟨_, rfl⟩
  have hempty := Definition.ofParams_eq_ok hofParams
  obtain ⟨chained, hchained, hintact, hstakers⟩ :=
    @Definition.Intact.addAll_stakerNodes empty env (Definition.Intact.ofParams hofParams) 1
      genesis.stakers (by rw [hempty]; rfl) (by simp [hempty])
  rw [hempty, List.map_nil, List.nil_append] at hstakers
  have hids : chained.nodes.map NodeConfig.id
      = (List.range' 1 genesis.stakers.length).map bootstrapNodeId := by
    rw [Definition.map_id_eq, hstakers, map_id_stakerNodes]
  have hregular : ∀ params ∈ [validatorId, delegatorId].map (scenario.stakingNode env),
      params.role = .regular := by
    simp [stakingNode, NodeParams.plain]
  have hnamed : ∀ params ∈ [validatorId, delegatorId].map (scenario.stakingNode env),
      params.id ≠ "" := by
    simp [stakingNode, NodeParams.plain, validatorId, delegatorId]
  obtain ⟨d, hall, hd, hparams⟩ := hintact.addAll_regular hregular hnamed (hids ▸ hnodup)
  refine ⟨d, ?_, hd, ?_⟩
  · unfold definition bootstrappingNetwork
    rw [hofParams]
    show (empty.addAll _ >>= fun bootstrap => bootstrap.addAll _) = _
    rw [hchained]
    exact hall
  · rw [hparams, hstakers]
    rfl

end Scenario

end LedgerNet
