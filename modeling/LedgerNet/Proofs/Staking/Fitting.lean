import LedgerNet.Proofs.Definition.Agreement
import LedgerNet.Proofs.Fleet.Completion
import LedgerNet.StakingRun
import Mathlib

/-!
# Networks that fit a scenario

A scenario needs two of the nodes by their names, and it computes what it
expects to find from a fee of its own. It is driven on a network that somebody
else may have described: a manifest takes the place of the layout that is built
in, and it is taken as it is. That network and scenario fit is checked nowhere,
neither when the manifest is converted nor when the scenario begins, which
looks at its amounts and at nothing else.

So it depends on where the definition is from. The built-in layout always fits
(`Scenario.fits_of_definition`). What comes from a manifest has the fee and the
nodes of the manifest, so it fits exactly if the manifest does
(`Manifest.fits_iff`).

The start of a network adds nothing to that. Every service is launched at the
fee of the definition, and once all nodes have come up those that are found are
those that are defined (`StartedAs`). So where network and scenario fit, no
lookup of the scenario fails, and otherwise a whole network may come up before
the first one does.
-/

namespace LedgerNet

variable {κ σ : Type}

/-- **A definition that fits a scenario**: transactions cost what the scenario
reckons with, and both staking nodes are defined. -/
structure Definition.Fits (scenario : Scenario) (d : Definition) : Prop where
  fee : d.params.txFee = scenario.amounts.fee
  validator : d.contains Scenario.validatorId = true
  delegator : d.contains Scenario.delegatorId = true

/-- **A manifest that fits a scenario.** -/
structure Manifest.Fits (scenario : Scenario) (manifest : Manifest) : Prop where
  /-- The usual fee stands where the manifest gives none. -/
  fee : manifest.txFee.getD Units.fee = scenario.amounts.fee
  validator : ∃ node ∈ manifest.nodes, node.id = Scenario.validatorId
  delegator : ∃ node ∈ manifest.nodes, node.id = Scenario.delegatorId

section Definitions

variable {env : Environment} {genesis : Genesis} {d : Definition}

/-! ## Which definitions fit -/

/-- **A manifest's definition fits exactly if the manifest does.** -/
theorem Manifest.fits_iff {manifest : Manifest} {scenario : Scenario}
    (h : manifest.definition env genesis = .ok d) : d.Fits scenario ↔ manifest.Fits scenario := by
  rw [definition_eq] at h
  obtain ⟨-, rfl⟩ := Requirement.granted_eq_ok_iff.1 h
  constructor
  · intro hfits
    exact ⟨hfits.fee, contains_described.1 hfits.validator, contains_described.1 hfits.delegator⟩
  · intro hfits
    exact ⟨hfits.fee, contains_described.2 hfits.validator, contains_described.2 hfits.delegator⟩

/-- **The layout that is built in fits.** -/
theorem Scenario.fits_of_definition {scenario : Scenario} {params : NetworkParams}
    (h : scenario.definition env params genesis = .ok d) : d.Fits scenario := by
  have hmanifest : (scenario.manifest params genesis).definition env genesis = .ok d := by
    rw [definition_manifest, h]
    rfl
  have hlisted : ∀ id ∈ [validatorId, delegatorId],
      ∃ node ∈ (scenario.manifest params genesis).nodes, node.id = id := fun id hid =>
    ⟨scenario.listedStaking id, List.mem_append_right _ (List.mem_map_of_mem hid), rfl⟩
  exact (Manifest.fits_iff hmanifest).2 ⟨rfl, hlisted _ (by simp), hlisted _ (by simp)⟩

/-! ## Definitions of a run -/

theorem Definition.Consistent.addAll {more : List NodeParams} {extended : Definition}
    (h : d.Consistent) (hall : d.addAll more = .ok extended) : extended.Consistent := by
  induction more generalizing d with
  | nil => exact Except.ok.inj hall ▸ h
  | cons params rest ih =>
    unfold Definition.addAll at hall
    rw [List.foldlM_cons, bind_eq_ok_iff] at hall
    obtain ⟨more, hadd, hrest⟩ := hall
    unfold Definition.add at hadd
    cases hobjection : d.objection? params with
    | some cause => simp [hobjection] at hadd
    | none =>
      obtain rfl : d.extended params = more := by simpa [hobjection] using hadd
      exact ih (h.extended hobjection) hrest

/-- **The definition of a manifest is consistent.** -/
theorem Manifest.consistent_of_definition {manifest : Manifest}
    (h : manifest.definition env genesis = .ok d) : d.Consistent := by
  have hmet : ∀ requirement ∈ manifest.requirements env genesis, requirement.met = true := by
    rw [definition_eq] at h
    exact Requirement.firstRefusal_eq_none_iff.1 (Requirement.granted_eq_ok_iff.1 h).1
  have hpinned : ∀ node ∈ manifest.nodes, node.PinnedIn genesis := by
    intro node hmem
    obtain ⟨before, after, hsplit⟩ := List.append_of_mem hmem
    exact (((acceptable_iff manifest).2 hmet).nodes before node after hsplit).staker
  rw [definition_eq_addAll hpinned, mapError_eq_ok_iff, bind_eq_ok_iff] at h
  obtain ⟨empty, hempty, hall⟩ := h
  exact (Definition.Consistent.ofParams hempty).addAll hall

/-- **The definition of a run is consistent**, wherever it is from. -/
theorem StakingRun.consistent_of_definition {files : FileSystem} {scenario : Scenario}
    (h : StakingRun.definition env files scenario genesis = .ok d) : d.Consistent := by
  unfold StakingRun.definition at h
  cases hpath : env.manifestPath? with
  | none =>
    rw [hpath] at h
    refine @Manifest.consistent_of_definition env genesis d
      (scenario.manifest env.networkParams genesis) ?_
    rw [Scenario.definition_manifest, mapError_eq_ok_iff.1 h]
    rfl
  | some path =>
    rw [hpath] at h
    obtain ⟨manifest, -, hd⟩ := bind_eq_ok_iff.1 h
    exact Manifest.consistent_of_definition (mapError_eq_ok_iff.1 hd)

end Definitions

/-! ## Starting the network -/

namespace Fleet

variable {d : Definition} {fleet left : Fleet κ} {history : List (NetworkEvent κ)}

/-- **A network is started as it is defined**: every service is launched at the
fee of the definition, and once all nodes have come up those that are found
are those that are defined. -/
structure StartedAs (d : Definition) (history : List (NetworkEvent κ))
    (outcome : Outcome FleetError Unit) (left : Fleet κ) : Prop where
  fee : ∀ spec reply, .start spec reply ∈ history →
    ∃ launch : Launch, spec.command = launch.render ∧ launch.txFee = d.params.txFee
  found : outcome = .ok () → ∀ id, (∃ tracked, left.tracked id = .ok tracked)
    ↔ d.contains id = true

/-- Whoever is in a fleet is found. -/
theorem exists_tracked_iff {id : String} :
    (∃ tracked, fleet.tracked id = .ok tracked) ↔ fleet.contains id = true := by
  unfold Fleet.tracked contains
  cases fleet.node? id <;> simp

/-- A service that is asked to start is that of a node. -/
theorem InTurn.exists_serviceOf {β : Type} {sequel : Sequel κ β} {nodes : List NodeConfig}
    {outcome : Outcome FleetError (List β)} {spec : ServiceSpec} {reply : Except ServiceError Ip}
    (h : InTurn d sequel nodes fleet history outcome left) (hmem : .start spec reply ∈ history) :
    ∃ node ips, spec = serviceOf d node ips := by
  obtain ⟨before, after, hsplit⟩ := List.append_of_mem hmem
  obtain ⟨_, node, _, _, _, ips, -, -, -, -, hspec⟩ := h.split_start hsplit
  exact ⟨node, ips, hspec⟩

/-- **Nothing but nodes of the network is started.** -/
theorem Starting.exists_serviceOf {outcome : Outcome FleetError Unit} {spec : ServiceSpec}
    {reply : Except ServiceError Ip} (h : Starting d fleet history outcome left)
    (hmem : .start spec reply ∈ history) : ∃ node ips, spec = serviceOf d node ips := by
  cases h with
  | uncreated row => exact row.exists_serviceOf hmem
  | unready row =>
    simp only [List.mem_append, List.mem_map, reduceCtorEq, and_false, exists_false,
      or_false] at hmem
    exact row.exists_serviceOf hmem
  | waved row _ others =>
    simp only [List.mem_append, List.mem_map, reduceCtorEq, and_false, exists_false,
      false_or] at hmem
    exact hmem.elim row.exists_serviceOf others.exists_serviceOf

/-- Once a network has started its nodes are those of the fleet. -/
theorem Starting.map_id_of_ok (h : Starting d fleet history (.ok ()) left) :
    left.nodes.map TrackedNode.id = fleet.nodes.map TrackedNode.id
      ++ (d.bootstrapNodes ++ d.regularNodes).map NodeConfig.id := by
  generalize hended : (Except.ok () : Outcome FleetError Unit) = outcome at h
  cases h with
  | uncreated => cases hended
  | unready => cases hended
  | @waved _ _ _ _ _ row _ _ outcome others =>
    cases outcome with
    | error => cases hended
    | ok values => rw [others.map_id_of_ok, row.map_id_of_ok, List.map_append, List.append_assoc]

/-- **A consistent definition is what is started**, where nothing ran before. -/
theorem Starting.startedAs {settings : FleetSettings} {outcome : Outcome FleetError Unit}
    (hconsistent : d.Consistent) (h : Starting d (empty settings) history outcome left) :
    StartedAs d history outcome left where
  fee spec reply hmem := by
    obtain ⟨node, ips, rfl⟩ := h.exists_serviceOf hmem
    exact ⟨Launch.ofNode d node ips, rfl, rfl⟩
  found hok id := by
    have hids : left.nodes.map TrackedNode.id
        = (d.bootstrapNodes ++ d.regularNodes).map NodeConfig.id := (hok ▸ h).map_id_of_ok
    rw [exists_tracked_iff, contains_iff, ← List.mem_map, hids,
      (hconsistent.perm_nodes.map NodeConfig.id).mem_iff, List.mem_map, ← Definition.contains_iff]

end Fleet

namespace StakingRun

/-! ## Manifests in files -/

/-- An environment that names a manifest. -/
def manifestNamed : Environment := .ofTexts [("TESTNET_NETWORK_MANIFEST", "network.yaml")]

theorem manifestPath?_manifestNamed : manifestNamed.manifestPath? = some "network.yaml" := by cbv

/-- The file with a manifest in it. -/
def manifestFile (text : String) : FileSystem :=
  ⟨[(["network.yaml"], .file (Text.utf8Bytes text))]⟩

section ManifestFile

variable {text : String} {manifest : Manifest}
  (hdecoded : Text.decodeUtf8? (Text.utf8Bytes text) = some text)
  (hparsed : Manifest.ofText text = .ok manifest)
include hdecoded hparsed

theorem ofFile_manifestFile :
    Manifest.ofFile (manifestFile text) "network.yaml" = .ok manifest := by
  have hread : (manifestFile text).read "network.yaml" = .ok (Text.utf8Bytes text) := by rfl
  have htext : (manifestFile text).readText "network.yaml" = .ok text := by
    simp [FileSystem.readText, hread, hdecoded, bind, Except.bind, pure, Except.pure]
  unfold Manifest.ofFile
  rw [htext]
  exact hparsed

/-- **The network of a run** whose manifest is in the file. -/
theorem definition_manifestFile (scenario : Scenario) (genesis : Genesis) :
    definition manifestNamed (manifestFile text) scenario genesis
      = (manifest.definition manifestNamed genesis).mapError (.network "network.yaml") := by
  unfold definition
  rw [manifestPath?_manifestNamed]
  show (Manifest.ofFile _ _).mapError _ >>= _ = _
  rw [ofFile_manifestFile hdecoded hparsed]
  rfl

end ManifestFile

/-- Settings under which nodes are asked three times whether they are ready. -/
def patient : FleetSettings := ⟨⟨⟨1⟩, 3⟩, ⟨⟨1⟩, 3⟩, ⟨1⟩⟩

/-- A node of a manifest with nothing but an id. -/
def plainNode (id : String) : ManifestNode := ⟨id, none, false, false, 0, none, none⟩

/-! ## Whether a network fits -/

/-- **Whether a run starts a network that its scenario can run on.** If no
manifest is named it does: the network fits. If one is named, the network fits
exactly if the manifest does. In both cases the network is started as it is
defined, on every deployment, so the scenario finds the nodes that it looks for
where the network fits, and their transactions cost what it reckons with. -/
theorem definition_fits (deployment : Deployment κ σ) {env : Environment} {files : FileSystem}
    {scenario : Scenario} {genesis : Genesis} {d : Definition}
    (hd : definition env files scenario genesis = .ok d) :
    (match env.manifestPath? with
      | none => d.Fits scenario
      | some path => ∃ manifest, Manifest.ofFile files path = .ok manifest
        ∧ (d.Fits scenario ↔ manifest.Fits scenario))
    ∧ ∀ (settings : FleetSettings) (t : Timeline (σ × List (NetworkEvent κ))),
      ∃ outcome left ended history,
        (Fleet.startNetwork d).runOn deployment.recorded.handler (Fleet.empty settings) t
          = ((outcome, left), ended)
        ∧ ended.world.2 = t.world.2 ++ history ∧ Fleet.StartedAs d history outcome left := by
  refine ⟨?_, fun settings t => ?_⟩
  · unfold definition at hd
    cases hpath : env.manifestPath? with
    | none =>
      rw [hpath] at hd
      exact Scenario.fits_of_definition (mapError_eq_ok_iff.1 hd)
    | some path =>
      rw [hpath] at hd
      obtain ⟨manifest, hmanifest, hd⟩ := bind_eq_ok_iff.1 hd
      exact ⟨manifest, mapError_eq_ok_iff.1 hmanifest,
        Manifest.fits_iff (mapError_eq_ok_iff.1 hd)⟩
  · obtain ⟨history, hended, hunfolds⟩ :=
      Action.unfolds_runOn deployment (Fleet.startNetwork d) (Fleet.empty settings) t
    exact ⟨_, _, _, history, rfl, hended,
      (Fleet.starting_startNetwork hunfolds).startedAs (consistent_of_definition hd)⟩

/-- The definition of a manifest that lists the two staking nodes. -/
def bothListed : Definition where
  params := manifestNamed.networkParams
  nodes := [⟨.plain manifestNamed Scenario.validatorId, []⟩,
    ⟨.plain manifestNamed Scenario.delegatorId, []⟩]
  chain := []

/-- A manifest that lists the two staking nodes and says nothing of a fee fits
the usual scenario, and both nodes are found once the network has started. -/
theorem definition_fits_bothListed :
    definition manifestNamed
        (manifestFile "nodes:\n- id: validator-node\n- id: delegator-node") .usual .localNet
      = .ok bothListed
    ∧ bothListed.Fits .usual
    ∧ ∃ left ended validator delegator,
      (Fleet.startNetwork bothListed).runOn Fleet.obliging.recorded.handler (Fleet.empty patient)
          ⟨⟨0⟩, ⟨0⟩, 0, []⟩ = ((.ok (), left), ended)
      ∧ left.tracked Scenario.validatorId = .ok validator
      ∧ left.tracked Scenario.delegatorId = .ok delegator := by
  have hdecoded : Text.decodeUtf8?
      (Text.utf8Bytes "nodes:\n- id: validator-node\n- id: delegator-node")
      = some "nodes:\n- id: validator-node\n- id: delegator-node" := by cbv
  have hparsed : Manifest.ofText "nodes:\n- id: validator-node\n- id: delegator-node"
      = .ok ⟨none, none, none, none,
        [plainNode Scenario.validatorId, plainNode Scenario.delegatorId]⟩ := by cbv
  have hd := (definition_manifestFile hdecoded hparsed .usual .localNet).trans
    (show _ = .ok bothListed by rfl)
  have hok : ((Fleet.startNetwork bothListed).runOn Fleet.obliging.recorded.handler
      (Fleet.empty patient) ⟨⟨0⟩, ⟨0⟩, 0, []⟩).1.1 = .ok () := by rfl
  obtain ⟨hmanifest, hstart⟩ := definition_fits Fleet.obliging hd
  rw [manifestPath?_manifestNamed] at hmanifest
  obtain ⟨manifest, hfile, hiff⟩ := hmanifest
  obtain rfl := Except.ok.inj ((ofFile_manifestFile hdecoded hparsed).symm.trans hfile)
  have hfits : bothListed.Fits .usual :=
    hiff.2 ⟨rfl, ⟨plainNode Scenario.validatorId, by simp, rfl⟩,
      ⟨plainNode Scenario.delegatorId, by simp, rfl⟩⟩
  obtain ⟨outcome, left, ended, history, hrun, -, hstarted⟩ := hstart patient ⟨⟨0⟩, ⟨0⟩, 0, []⟩
  obtain rfl : outcome = .ok () := (congrArg (fun ended => ended.1.1) hrun).symm.trans hok
  obtain ⟨validator, hvalidator⟩ := (hstarted.found rfl _).2 hfits.validator
  obtain ⟨delegator, hdelegator⟩ := (hstarted.found rfl _).2 hfits.delegator
  exact ⟨hd, hfits, left, ended, validator, delegator, hrun, hvalidator, hdelegator⟩

/-- The definition of a manifest that lists one of the staking nodes, and a fee
of its own. -/
def oneListed : Definition where
  params := { manifestNamed.networkParams with txFee := 7 }
  nodes := [⟨.plain manifestNamed Scenario.validatorId, []⟩]
  chain := []

/-- **A run may start a network that its scenario cannot run on.** This one has
another fee than the scenario, and one of the nodes is missing. It comes up as
a whole, and then the node is not found. -/
theorem definition_unfit :
    definition manifestNamed (manifestFile "tx_fee: 7\nnodes:\n- id: validator-node")
        .usual .localNet = .ok oneListed
    ∧ oneListed.params.txFee ≠ Scenario.usual.amounts.fee
    ∧ oneListed.contains Scenario.delegatorId = false
    ∧ ((Fleet.startNetwork oneListed).runOn Fleet.obliging.handler (Fleet.empty patient)
        ⟨⟨0⟩, ⟨0⟩, 0⟩).1.1 = .ok ()
    ∧ ((Fleet.startNetwork oneListed).runOn Fleet.obliging.handler (Fleet.empty patient)
        ⟨⟨0⟩, ⟨0⟩, 0⟩).1.2.tracked Scenario.delegatorId
      = .error (.notFound Scenario.delegatorId) := by
  refine ⟨?_, by decide, by decide, by rfl, by rfl⟩
  have hparsed : Manifest.ofText "tx_fee: 7\nnodes:\n- id: validator-node"
      = .ok ⟨none, some 7, none, none, [plainNode Scenario.validatorId]⟩ := by cbv
  exact (definition_manifestFile (by cbv) hparsed .usual .localNet).trans (by rfl)

end StakingRun

end LedgerNet
