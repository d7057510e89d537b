import LedgerNet.Manifest
import LedgerNet.Proofs.Definition.Edits

/-!
# What a manifest has to meet

A manifest becomes a network by a fold: its nodes are added one after the
other, and whether one is added depends on all that were added before it.
Here the same is said without the fold. A manifest has a list of
**requirements**, each about what is written in it: those of its parameters,
and then for each node that its staker exists, that it has an id, that no node
before it has the same one, and that it asks for no place in the chain or for
the next one. The network comes about if all of them are met
(`Manifest.definition_eq`), it is then the network that the manifest
describes (`described`), and if not, the first that is not met is what the
manifest is refused for.
-/

namespace LedgerNet

/-! ## Requirements -/

/-- **A requirement**: whether it is met, and how it is refused if it is
not. -/
structure Requirement where
  met : Bool
  refusal : ManifestError

namespace Requirement

/-- The refusal of the first requirement that is not met. -/
def firstRefusal (requirements : List Requirement) : Option ManifestError :=
  (requirements.find? (!·.met)).map refusal

/-- What is given if some requirements are met. -/
def granted {α : Type} (requirements : List Requirement) (value : α) : Except ManifestError α :=
  match firstRefusal requirements with
  | some refusal => .error refusal
  | none => .ok value

variable {α β : Type} {requirements : List Requirement} {value : α}

theorem firstRefusal_eq_none_iff :
    firstRefusal requirements = none ↔ ∀ requirement ∈ requirements, requirement.met = true := by
  simp [firstRefusal]

@[simp] theorem granted_nil (value : α) : granted [] value = .ok value := rfl

theorem granted_cons (requirement : Requirement) (rest : List Requirement) (value : α) :
    granted (requirement :: rest) value
      = if requirement.met then granted rest value else .error requirement.refusal := by
  cases hmet : requirement.met <;> simp [granted, firstRefusal, hmet]

/-- **One thing after the other**: where a next step is granted on some
requirements, both steps are granted on all of them. -/
theorem granted_bind {before after : List Requirement} {first : α} {value : β}
    {next : α → Except ManifestError β} (h : next first = granted after value) :
    (granted before first >>= next) = granted (before ++ after) value := by
  induction before with
  | nil => exact h
  | cons requirement before ih =>
    rw [List.cons_append, granted_cons, granted_cons, ← ih]
    split <;> rfl

theorem granted_eq_ok_iff {result : α} :
    granted requirements value = .ok result ↔
      firstRefusal requirements = none ∧ value = result := by
  unfold granted
  cases firstRefusal requirements <;> simp

theorem granted_eq_error_iff {cause : ManifestError} :
    granted requirements value = .error cause ↔ firstRefusal requirements = some cause := by
  unfold granted
  cases firstRefusal requirements <;> simp

end Requirement

open Requirement

/-! ## One node -/

namespace ManifestNode

variable (env : Environment) (genesis : Genesis) (before : List ManifestNode) (node : ManifestNode)

/-- **What a node is pinned to**: what is known of the staker that it refers
to. -/
def pinned : Option Credentials :=
  node.staker.bind fun index => genesis.stakers[index]?.bind Staker.credentials

/-- **The entry of a node in the bootstrap chain**: under the identity that it
is pinned to, if its credentials are complete, or else under its own id. -/
def peer : Peer where
  node := node.id
  identity := ((node.pinned genesis).filter Credentials.isComplete).elim node.id Credentials.nodeId

/-- The entries of the bootstrap nodes among some nodes. -/
def peersOf (nodes : List ManifestNode) : List Peer :=
  (nodes.filter ManifestNode.bootstrap).map (peer genesis)

/-- The place in the chain that is free after some nodes. -/
def nextPlace : Nat := before.countP ManifestNode.bootstrap + 1

/-- The staker that a node refers to has to exist. -/
def pinning : List Requirement :=
  node.staker.toList.map fun index =>
    ⟨index < genesis.stakers.length, .unknownStaker node.id index genesis.stakers.length⟩

/-- What a node has to meet after the nodes before it: an id, a new one, and
for a bootstrap node a place in the chain that is free. -/
def placing : List Requirement :=
  [⟨node.id != "", .definition .emptyId⟩,
    ⟨before.all (·.id != node.id), .definition (.duplicateNode node.id)⟩]
  ++ if node.bootstrap then
    [⟨node.ordinal == 0 || node.ordinal == nextPlace before,
      .definition (.invalidOrdinal node.id node.ordinal (nextPlace before))⟩]
  else []

/-- **The requirements of a node**, its staker first. -/
def requirements : List Requirement := node.pinning genesis ++ node.placing before

/-- **A node may stand after some others.** -/
structure Admissible : Prop where
  staker : ∀ index, node.staker = some index → index < genesis.stakers.length
  named : node.id ≠ ""
  fresh : ∀ other ∈ before, other.id ≠ node.id
  placed : node.bootstrap = true → node.ordinal = 0 ∨ node.ordinal = nextPlace before

/-- A node may stand where its requirements are met. -/
theorem admissible_iff :
    node.Admissible genesis before ↔
      ∀ requirement ∈ node.requirements genesis before, requirement.met = true := by
  have hplaced : (∀ requirement ∈ node.placing before, requirement.met = true) ↔
      node.id ≠ "" ∧ (∀ other ∈ before, other.id ≠ node.id)
        ∧ (node.bootstrap = true → node.ordinal = 0 ∨ node.ordinal = nextPlace before) := by
    cases hrole : node.bootstrap <;> simp [placing, hrole]
  have hpinned : (∀ requirement ∈ node.pinning genesis, requirement.met = true) ↔
      ∀ index, node.staker = some index → index < genesis.stakers.length := by
    cases hstaker : node.staker <;> simp [pinning, hstaker]
  rw [requirements, List.forall_mem_append, hpinned, hplaced]
  exact ⟨fun h => ⟨h.staker, h.named, h.fresh, h.placed⟩,
    fun ⟨hstaker, hnamed, hfresh, hplace⟩ => ⟨hstaker, hnamed, hfresh, hplace⟩⟩

/-- The credentials of a node are those of a staker that exists. -/
theorem credentials_eq :
    node.credentials genesis = granted (node.pinning genesis) (node.pinned genesis) := by
  unfold credentials pinning pinned
  cases hstaker : node.staker with
  | none => rfl
  | some index =>
    simp only [Option.toList_some, List.map_cons, List.map_nil, granted_cons, granted_nil,
      Option.bind_some, decide_eq_true_eq]
    cases hfound : genesis.stakers[index]? with
    | none => rw [if_neg (Nat.not_lt.2 (List.getElem?_eq_none_iff.1 hfound))]
    | some staker => rw [if_pos (List.getElem?_eq_some_iff.1 hfound).1, Option.bind_some]

theorem asPeer_params :
    (node.params env (node.pinned genesis)).asPeer = node.peer genesis := by
  unfold NodeParams.asPeer NodeParams.identity NodeParams.credentials? peer params
  cases (node.pinned genesis).filter Credentials.isComplete <;> rfl

theorem isBootstrap_params (credentials : Option Credentials) :
    (node.params env credentials).role.isBootstrap = node.bootstrap := by
  cases hrole : node.bootstrap <;> simp [params, hrole, Role.isBootstrap]

end ManifestNode

/-! ## All nodes -/

namespace Manifest

open ManifestNode

variable (env : Environment) (genesis : Genesis) (params : NetworkParams)

/-- **The network that some nodes describe**: each with the credentials that
it is pinned to, and stamped with the bootstrap nodes before it. -/
def described (nodes : List ManifestNode) : Definition where
  params := params
  nodes := nodes.mapIdx fun i node =>
    ⟨node.params env (node.pinned genesis), peersOf genesis (nodes.take i)⟩
  chain := peersOf genesis nodes

/-- The requirements of the nodes that come after some others. -/
def requirementsAfter (before : List ManifestNode) : List ManifestNode → List Requirement
  | [] => []
  | node :: rest => node.requirements genesis before ++ requirementsAfter (before ++ [node]) rest

/-- What the parameters of a network have to meet. -/
def paramRequirements : List Requirement :=
  [⟨params.image.toList.any (!Text.isBlank ·), .definition .emptyImage⟩,
    ⟨decide (1 ≤ params.quorumSize.toNat ∧ params.quorumSize.toNat ≤ params.sampleSize.toNat),
      .definition (.invalidConsensus params.sampleSize params.quorumSize)⟩]

/-- **The requirements of a manifest**: those of its parameters, and then
those of its nodes in their order. -/
def requirements (manifest : Manifest) : List Requirement :=
  paramRequirements (manifest.params env) ++ requirementsAfter genesis [] manifest.nodes

/-- **A manifest that describes a network.** The image, the quorum and the
sample are the usual ones where the manifest has none. -/
structure Acceptable (manifest : Manifest) : Prop where
  image : ∃ c ∈ (manifest.image.getD env.nodeImage).toList, Text.isBlank c = false
  quorum_pos : 1 ≤ (manifest.quorumSize.getD Conventions.quorumSize).toNat
  quorum_le : (manifest.quorumSize.getD Conventions.quorumSize).toNat
    ≤ (manifest.sampleSize.getD Conventions.sampleSize).toNat
  nodes : ∀ before node after, manifest.nodes = before ++ node :: after →
    node.Admissible genesis before

variable {env genesis params}

theorem forall_paramRequirements_iff (params : NetworkParams) :
    (∀ requirement ∈ paramRequirements params, requirement.met = true) ↔
      (∃ c ∈ params.image.toList, Text.isBlank c = false)
        ∧ 1 ≤ params.quorumSize.toNat ∧ params.quorumSize.toNat ≤ params.sampleSize.toNat := by
  simp [paramRequirements]

/-- Requirements are met one node after the other. -/
theorem forall_requirementsAfter_iff {before nodes : List ManifestNode} :
    (∀ requirement ∈ requirementsAfter genesis before nodes, requirement.met = true) ↔
      ∀ earlier node later, nodes = earlier ++ node :: later →
        node.Admissible genesis (before ++ earlier) := by
  induction nodes generalizing before with
  | nil => simp [requirementsAfter]
  | cons first rest ih =>
    rw [requirementsAfter, List.forall_mem_append, ← admissible_iff, ih]
    constructor
    · rintro ⟨hfirst, hrest⟩ earlier node later hsplit
      rcases List.cons_eq_append_iff.1 hsplit with ⟨rfl, heq⟩ | ⟨earlier, rfl, heq⟩
      · obtain ⟨rfl, -⟩ := List.cons.inj heq
        rwa [List.append_nil]
      · rw [List.append_cons]
        exact hrest earlier node later heq
    · refine fun h => ⟨by simpa using h [] first rest rfl, fun earlier node later hsplit => ?_⟩
      rw [← List.append_cons]
      exact h (first :: earlier) node later (by rw [hsplit, List.cons_append])

/-- A manifest describes a network where its requirements are met. -/
theorem acceptable_iff (manifest : Manifest) :
    manifest.Acceptable env genesis ↔
      ∀ requirement ∈ manifest.requirements env genesis, requirement.met = true := by
  have hparams := forall_paramRequirements_iff (manifest.params env)
  rw [requirements, List.forall_mem_append, hparams, forall_requirementsAfter_iff]
  exact ⟨fun h => ⟨⟨h.image, h.quorum_pos, h.quorum_le⟩, h.nodes⟩,
    fun ⟨⟨himage, hpos, hle⟩, hnodes⟩ => ⟨himage, hpos, hle, hnodes⟩⟩

/-! ## The fold -/

/-- An empty network comes about where its parameters meet what they have
to. -/
theorem ofParams_eq (env : Environment) (genesis : Genesis) (params : NetworkParams) :
    (Definition.ofParams params).mapError .definition
      = granted (paramRequirements params) (described env genesis params []) := by
  have hblank : Text.isBlankText params.image = !params.image.toList.any (!Text.isBlank ·) := by
    simp [Text.isBlankText, List.all_eq_not_any_not]
  have hquorum : (params.quorumSize = 0 ∨ params.sampleSize < params.quorumSize) ↔
      ¬ (1 ≤ params.quorumSize.toNat ∧ params.quorumSize.toNat ≤ params.sampleSize.toNat) := by
    rw [← UInt32.toNat_inj, UInt32.lt_iff_toNat_lt]
    simp only [UInt32.toNat_zero]
    omega
  simp only [paramRequirements, granted_cons, granted_nil, decide_eq_true_eq]
  unfold Definition.ofParams NetworkParams.validate
  rw [hblank]
  cases params.image.toList.any (!Text.isBlank ·) with
  | false => rfl
  | true =>
    by_cases hsizes : 1 ≤ params.quorumSize.toNat
        ∧ params.quorumSize.toNat ≤ params.sampleSize.toNat
    · rw [if_pos rfl, if_pos hsizes, Bool.not_true, if_neg Bool.false_ne_true,
        if_neg fun h => hquorum.1 h hsizes]
      rfl
    · rw [if_pos rfl, if_neg hsizes, Bool.not_true, if_neg Bool.false_ne_true,
        if_pos (hquorum.2 hsizes)]
      rfl

/-- **One node more.** -/
theorem described_append (before : List ManifestNode) (node : ManifestNode) :
    described env genesis params (before ++ [node])
      = (described env genesis params before).extended
          (node.params env (node.pinned genesis)) := by
  unfold described Definition.extended
  congr 1
  · rw [List.mapIdx_concat, List.take_left]
    congr 1
    refine List.mapIdx_eq_mapIdx_iff.2 fun i hi => ?_
    rw [List.take_append_of_le_length (Nat.le_of_lt hi)]
  · rw [isBootstrap_params, asPeer_params, peersOf, List.filter_append, List.map_append]
    cases hrole : node.bootstrap <;> simp [hrole, peersOf]

/-- **The nodes that are defined** are those that are listed. -/
theorem contains_described {nodes : List ManifestNode} {id : String} :
    (described env genesis params nodes).contains id = true ↔ ∃ node ∈ nodes, node.id = id := by
  have hids : (described env genesis params nodes).nodes.map NodeConfig.id
      = nodes.map ManifestNode.id := by
    refine List.ext_getElem? fun i => ?_
    simp only [described, List.getElem?_map, List.getElem?_mapIdx, Option.map_map]
    rfl
  rw [Definition.contains_iff, ← List.mem_map, hids, List.mem_map]

/-- What speaks against a node after those before it. -/
theorem add_described (before : List ManifestNode) (node : ManifestNode)
    (credentials : Option Credentials) :
    ((described env genesis params before).add (node.params env credentials)).mapError .definition
      = granted (node.placing before)
          ((described env genesis params before).extended (node.params env credentials)) := by
  have hcontains : (described env genesis params before).contains node.id
      = !before.all (·.id != node.id) := by
    rw [Bool.eq_iff_iff, contains_described]
    simp
  have hlength : (described env genesis params before).chain.length + 1 = nextPlace before := by
    rw [described, peersOf, List.length_map, nextPlace, List.countP_eq_length_filter]
  have hrole : (node.params env credentials).role
      = if node.bootstrap then .bootstrap node.ordinal else .regular := rfl
  unfold Definition.add Definition.objection? placing
  rw [show (node.params env credentials).id = node.id from rfl, hcontains, hlength, hrole]
  generalize (described env genesis params before).extended (node.params env credentials) = more
  simp only [List.cons_append, List.nil_append, granted_cons]
  by_cases hnamed : node.id = ""
  · simp [hnamed, Except.mapError]
  cases hfresh : before.all (·.id != node.id) with
  | false => simp [hnamed, Except.mapError]
  | true =>
    -- only a bootstrap node asks for a place
    cases hplace : node.bootstrap with
    | false => simp [hnamed, Except.mapError]
    | true =>
      by_cases hzero : node.ordinal = 0
      · simp [hnamed, hzero, granted_cons, Except.mapError]
      · by_cases hnext : node.ordinal = nextPlace before <;>
          simp [hnamed, hzero, hnext, granted_cons, Except.mapError]

/-- **Adding a node** to those before it. -/
theorem addNode_described (before : List ManifestNode) (node : ManifestNode) :
    addNode env genesis (described env genesis params before) node
      = granted (node.requirements genesis before)
          (described env genesis params (before ++ [node])) := by
  unfold addNode ManifestNode.requirements
  rw [credentials_eq, described_append]
  exact granted_bind (add_described before node (node.pinned genesis))

/-- **Adding some nodes** to those before them. -/
theorem foldlM_addNode (before nodes : List ManifestNode) :
    nodes.foldlM (addNode env genesis) (described env genesis params before)
      = granted (requirementsAfter genesis before nodes)
          (described env genesis params (before ++ nodes)) := by
  induction nodes generalizing before with
  | nil => rw [List.append_nil]; rfl
  | cons node rest ih =>
    rw [List.foldlM_cons, addNode_described, requirementsAfter, List.append_cons before node rest]
    exact granted_bind (ih (before ++ [node]))

/-- **A manifest is the network that it describes**, or it is refused for the
first requirement that it does not meet. -/
theorem definition_eq (manifest : Manifest) :
    manifest.definition env genesis
      = granted (manifest.requirements env genesis)
          (described env genesis (manifest.params env) manifest.nodes) := by
  unfold definition requirements
  rw [ofParams_eq env genesis]
  exact granted_bind (foldlM_addNode [] manifest.nodes)

/-- **Which manifests are accepted, as what, and what the others are refused
for.** A manifest is accepted where its image is not blank, its quorum is
between one and the sample, and each of its nodes may stand after those before
it. The network has the parameters of the manifest and its nodes in their
order: each with what is asked for in the manifest and with the credentials
that it is pinned to, and depending on the bootstrap nodes that are listed
before it. A manifest that is not accepted is refused for the first of its
requirements that is not met. -/
theorem definition_is_exact (manifest : Manifest) (env : Environment) (genesis : Genesis) :
    ((∃ d, manifest.definition env genesis = .ok d) ↔ manifest.Acceptable env genesis)
    ∧ (∀ d, manifest.definition env genesis = .ok d →
        d.params = manifest.params env
        ∧ d.nodes = manifest.nodes.mapIdx fun i node =>
          ⟨node.params env (node.pinned genesis), peersOf genesis (manifest.nodes.take i)⟩)
    ∧ ∀ cause, manifest.definition env genesis = .error cause ↔
        firstRefusal (manifest.requirements env genesis) = some cause := by
  rw [definition_eq, acceptable_iff, ← firstRefusal_eq_none_iff]
  refine ⟨?_, ?_, fun cause => granted_eq_error_iff⟩
  · simp only [granted_eq_ok_iff, exists_and_left, exists_eq', and_true]
  · intro d hd
    obtain ⟨-, rfl⟩ := granted_eq_ok_iff.1 hd
    exact ⟨rfl, rfl⟩

/-- A node without an id that refers to a staker that is not there is refused for the staker. -/
example :
    let node : ManifestNode := ⟨"", none, true, false, 0, some 5, none⟩
    (⟨none, none, none, none, [node]⟩ : Manifest).definition .empty .localNet
      = .error (.unknownStaker "" 5 5) := by
  decide

end Manifest

end LedgerNet
