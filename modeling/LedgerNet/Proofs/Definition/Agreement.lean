import LedgerNet.Proofs.Definition.Manifest
import LedgerNet.Proofs.Definition.Preset

/-!
# A scenario written down

There are two ways to the network of a scenario. It is put together in the
program, one bootstrap node for each staker and then the two staking nodes, or
the same nodes are listed in a manifest, and that is converted. Nothing in the
program makes the two agree: they count the bootstrap nodes apart, they find
the credentials apart, and each has defaults of its own.

They meet in what is asked for of the nodes. A manifest whose stakers all
exist is an empty network to which the nodes of its list are added
(`Manifest.definition_eq_addAll`), as a scenario is
(`Scenario.definition_eq_addAll`), so it is enough that the two lists ask for
the same (`Scenario.nodeParams_manifest`). What an addition makes of the nodes
does not matter to this. That it does not refuse any of them is
`Scenario.definition_eq_ok`, and so the two networks come about together,
wherever the image is not blank.
-/

namespace LedgerNet

/-! ## Results -/

section Results

variable {ε δ α β : Type} {result : Except ε α} {next : α → Except ε β} {f : ε → δ}

/-- The error of two steps, put into another one, is that of each step. -/
theorem mapError_bind :
    (result >>= next).mapError f = result.mapError f >>= fun value => (next value).mapError f := by
  cases result <;> rfl

theorem mapError_eq_ok_iff {value : α} : result.mapError f = .ok value ↔ result = .ok value := by
  cases result <;> simp [Except.mapError]

theorem bind_eq_ok_iff {value : β} :
    (result >>= next) = .ok value ↔ ∃ middle, result = .ok middle ∧ next middle = .ok value := by
  cases result <;> simp [bind, Except.bind]

end Results

/-! ## Manifests whose stakers exist -/

section Pinned

variable {env : Environment} {genesis : Genesis}

/-- The staker that a node refers to is one of the first ledger. -/
def ManifestNode.PinnedIn (genesis : Genesis) (node : ManifestNode) : Prop :=
  ∀ index, node.staker = some index → index < genesis.stakers.length

theorem ManifestNode.PinnedIn.credentials_eq_ok {node : ManifestNode} (h : node.PinnedIn genesis) :
    node.credentials genesis = .ok (node.pinned genesis) := by
  unfold ManifestNode.credentials ManifestNode.pinned
  cases hstaker : node.staker with
  | none => rfl
  | some index => simp [List.getElem?_eq_getElem (h index hstaker)]

namespace Manifest

/-- What is asked for of the nodes of a manifest. -/
def nodeParams (manifest : Manifest) (env : Environment) (genesis : Genesis) : List NodeParams :=
  manifest.nodes.map fun node => node.params env (node.pinned genesis)

/-- **Adding nodes whose stakers exist** is adding what is asked for of
them. -/
theorem foldlM_addNode_eq_addAll {nodes : List ManifestNode}
    (h : ∀ node ∈ nodes, node.PinnedIn genesis) (d : Definition) :
    nodes.foldlM (addNode env genesis) d
      = (d.addAll (nodes.map fun node => node.params env (node.pinned genesis))).mapError
          .definition := by
  induction nodes generalizing d with
  | nil => rfl
  | cons node rest ih =>
    obtain ⟨hnode, hrest⟩ := List.forall_mem_cons.1 h
    have hadd : addNode env genesis d node
        = (d.add (node.params env (node.pinned genesis))).mapError .definition := by
      unfold addNode
      rw [hnode.credentials_eq_ok]
      rfl
    rw [List.foldlM_cons, hadd]
    unfold Definition.addAll
    rw [List.map_cons, List.foldlM_cons, mapError_bind]
    exact congrArg _ (funext fun more => ih hrest more)

/-- **A manifest whose stakers exist** is an empty network and what is asked
for of its nodes. -/
theorem definition_eq_addAll {manifest : Manifest}
    (h : ∀ node ∈ manifest.nodes, node.PinnedIn genesis) :
    manifest.definition env genesis
      = (Definition.ofParams (manifest.params env)
          >>= (·.addAll (manifest.nodeParams env genesis))).mapError .definition := by
  unfold definition
  rw [mapError_bind]
  exact congrArg _ (funext fun empty => foldlM_addNode_eq_addAll h empty)

end Manifest

end Pinned

/-! ## Scenarios -/

theorem Definition.addAll_append (d : Definition) (first second : List NodeParams) :
    d.addAll (first ++ second) = d.addAll first >>= (·.addAll second) :=
  List.foldlM_append

namespace Scenario

variable (scenario : Scenario) (env : Environment) (params : NetworkParams) (genesis : Genesis)

/-- The parameters of the network of a scenario. -/
def networkParams : NetworkParams :=
  ({ params with txFee := scenario.amounts.fee } : NetworkParams).withPresetConsensus

/-- **A scenario** is an empty network and what is asked for of its nodes. -/
theorem definition_eq_addAll :
    scenario.definition env params genesis
      = Definition.ofParams (scenario.networkParams params)
          >>= (·.addAll (scenario.nodeParams env genesis)) := by
  unfold definition bootstrappingNetwork nodeParams
  rw [bind_assoc]
  exact congrArg _ (funext fun empty => (Definition.addAll_append empty _ _).symm)

/-- The bootstrap node at a position counted from one, as it is listed. -/
def listedStaker (ordinal : Nat) : ManifestNode where
  id := bootstrapNodeId ordinal
  image := none
  staking := true
  bootstrap := true
  ordinal := ordinal
  staker := some (ordinal - 1)
  bootstrapAttempts := none

/-- One of the two staking nodes, as it is listed. -/
def listedStaking (id : String) : ManifestNode where
  id := id
  image := scenario.image
  staking := true
  bootstrap := false
  ordinal := 0
  staker := none
  bootstrapAttempts := none

/-- **A scenario written down**: its image, its fee and its consensus, the
bootstrap nodes by the place of their stakers, and the two staking nodes. -/
def manifest : Manifest where
  image := some params.image
  txFee := some scenario.amounts.fee
  sampleSize := some 3
  quorumSize := some 3
  nodes := (List.range' 1 genesis.stakers.length).map listedStaker
    ++ [validatorId, delegatorId].map scenario.listedStaking

variable {scenario env params genesis}

/-- What is written down of the parameters leaves nothing to the usual
ones. -/
theorem params_manifest :
    (scenario.manifest params genesis).params env = scenario.networkParams params := rfl

/-- No node that is listed refers to a staker that is not there. -/
theorem pinnedIn_manifest {node : ManifestNode}
    (h : node ∈ (scenario.manifest params genesis).nodes) : node.PinnedIn genesis := by
  intro index hindex
  rcases List.mem_append.1 h with hstaker | hstaking
  · obtain ⟨ordinal, hordinal, rfl⟩ := List.mem_map.1 hstaker
    obtain rfl : ordinal - 1 = index := Option.some.inj hindex
    rw [List.mem_range'_1] at hordinal
    omega
  · obtain ⟨id, -, rfl⟩ := List.mem_map.1 hstaking
    cases hindex

/-- **The stakers are found again.** Those from a place on are asked for in
the same way, by their places as by themselves. -/
theorem map_listedStaker (before : List Staker) {stakers : List Staker}
    (h : genesis.stakers = before ++ stakers) :
    ((List.range' (before.length + 1) stakers.length).map listedStaker).map (fun node =>
        node.params env (node.pinned genesis))
      = stakerNodes env (before.length + 1) stakers := by
  induction stakers generalizing before with
  | nil => rfl
  | cons staker rest ih =>
    have hfound : (listedStaker (before.length + 1)).pinned genesis = staker.credentials := by
      simp [ManifestNode.pinned, listedStaker, h]
    have hrest := ih (before ++ [staker]) (by rw [h, List.append_assoc]; rfl)
    rw [List.length_append] at hrest
    rw [List.length_cons, List.range'_succ, List.map_cons, List.map_cons, hfound]
    exact congrArg _ hrest

/-- **What is asked for is what is written down.** -/
theorem nodeParams_manifest :
    (scenario.manifest params genesis).nodeParams env genesis
      = scenario.nodeParams env genesis := by
  unfold Manifest.nodeParams manifest nodeParams
  rw [List.map_append]
  exact congrArg (· ++ _) (map_listedStaker [] rfl)

/-- **The manifest is converted to the definition of the scenario**, and it is
refused for what the scenario is refused for. -/
theorem definition_manifest :
    (scenario.manifest params genesis).definition env genesis
      = (scenario.definition env params genesis).mapError .definition := by
  rw [Manifest.definition_eq_addAll fun node h => pinnedIn_manifest h, params_manifest,
    nodeParams_manifest, definition_eq_addAll]

/-- **A scenario and what is written down of it are one network.** The manifest
is converted to the definition of the scenario, and both are refused for the
same. Neither is refused if the image is not blank, whatever there is of
stakers and of sizes for the consensus, and both of them are if it is. -/
theorem manifest_agrees (scenario : Scenario) (env : Environment) (params : NetworkParams)
    (genesis : Genesis) :
    (scenario.manifest params genesis).definition env genesis
        = (scenario.definition env params genesis).mapError .definition
      ∧ ((∃ d, scenario.definition env params genesis = .ok d)
          ↔ Text.isBlankText params.image = false)
      ∧ (scenario.definition env params genesis = .error .emptyImage
          ↔ Text.isBlankText params.image = true) := by
  refine ⟨definition_manifest, ?_⟩
  cases himage : Text.isBlankText params.image with
  | false =>
    obtain ⟨d, hd, -⟩ := @definition_eq_ok scenario env params genesis himage
    simp [hd]
  | true =>
    have hrefused : (scenario.networkParams params).validate = .error .emptyImage := if_pos himage
    have hfailed : scenario.definition env params genesis = .error .emptyImage := by
      rw [definition_eq_addAll, Definition.ofParams, hrefused]
      rfl
    simp [hfailed]

end Scenario

end LedgerNet
