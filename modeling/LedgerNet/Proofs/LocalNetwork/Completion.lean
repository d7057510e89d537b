import LedgerNet.Proofs.LocalNetwork.Joining
import LedgerNet.Proofs.LocalNetwork.Staking

/-!
# A scenario runs to its end

On a fresh network in memory a scenario starts its own definition, stakes,
and lets nodes join. Starting leaves the ledger as it is and staking leaves
the services as they are, so the two go through one after the other, and
what is known of each holds in the end.
-/

namespace LedgerNet

namespace LocalNetwork

variable {ledger left : Ledger} {ids : List String} {network : LocalNetwork}

/-- A network in the beginning runs nothing. -/
theorem runs_ofGenesis (genesis : Genesis) (fee : Amount) :
    Runs (Ledger.ofGenesis genesis fee) [] (ofGenesis genesis fee) :=
  ⟨rfl, rfl, rfl, rfl⟩

/-- What runs does not depend on the ledger. -/
theorem Runs.settle (h : Runs ledger ids network) (left : Ledger) :
    Runs left ids { network with ledger := left } :=
  ⟨rfl, h.services, h.startOrder, h.heldBack⟩

end LocalNetwork

/-! ## Who has taken part -/

namespace Roster

variable {first second : Participant LocalClient} {roster : Roster LocalClient}

/-- Two participants with different ids are found under their ids. -/
theorem participant_insert_insert (hempty : roster.participants = []) (hne : first.id ≠ second.id)
    (funder? : Option (Funder LocalClient)) :
    { (roster.insert first).insert second with funder? }.participant first.id = .ok first
      ∧ { (roster.insert first).insert second with funder? }.participant second.id
        = .ok second := by
  have hentered : (({ (roster.insert first).insert second with funder? } :
        Roster LocalClient).participants = [second, first])
      ∨ (({ (roster.insert first).insert second with funder? } :
        Roster LocalClient).participants = [first, second]) := by
    simp only [insert, hempty, insertSorted]
    rw [if_neg hne.symm]
    exact ite_eq_or_eq _ _ _
  unfold participant
  rcases hentered with hentered | hentered
  · rw [hentered]
    simp [hne.symm]
  · rw [hentered]
    simp [hne]

end Roster

namespace Scenario

open LocalNetwork

/-- **What a scenario leaves behind**: its two participants have what they
did not bond or pay and are the only ones who stake, and the nodes that were
defined are running together with those that joined. -/
structure Completed (scenario : Scenario) (genesis : Genesis) (roster : Roster LocalClient)
    (fleet : Fleet LocalClient) (ledger : Ledger) : Prop where
  /-- The participants are on the roster, and the ledger is settled. -/
  settled : ∃ validator delegator, roster.participant validatorId = .ok validator
    ∧ roster.participant delegatorId = .ok delegator
    ∧ validator.nodeId = nodeIdOf validatorId
    ∧ Settlement scenario.amounts validator delegator genesis.funded.address
      Ledger.fundedBalance.toNat ledger.holdings
  /-- The nodes of the scenario and the added ones are tracked, no others. -/
  running : fleet.nodes.map TrackedNode.id
    = nodeIds genesis ++ (List.range' 1 scenario.addedNodes).map Site.addedNodeId

variable {scenario : Scenario} {env : Environment} {params : NetworkParams} {genesis : Genesis}
  {settings : StakingSettings} {fleetSettings : FleetSettings} {epoch now : Duration}

/-- **Starting the network of a scenario** where nothing is running. -/
theorem grows_startNetwork_definition {d : Definition} (h : d.Intact)
    (hparams : d.nodes.map NodeConfig.params = scenario.nodeParams env genesis)
    (hroom : genesis.stakers.length + 2 ≤ 254)
    (hwave : 0 < fleetSettings.bootstrapWave.maxAttempts.toNat)
    (hstartup : 0 < fleetSettings.startup.maxAttempts.toNat) :
    Grows fleetSettings (Fleet.startNetwork d) [] (nodeIds genesis) fun _ => True := by
  have hlength : d.nodes.length = genesis.stakers.length + 2 := by
    rw [← List.length_map NodeConfig.id, Definition.map_id_eq, hparams, map_id_nodeParams]
    simp [nodeIds]
  rw [← map_id_startOrder h hparams]
  exact grows_startNetwork (startable_of_intact h (hlength ▸ hroom)) hwave hstartup

/-- **The staking of a scenario** on a network that runs its nodes. -/
theorem runOn_stake {network : LocalNetwork}
    (hruns : Runs (Ledger.ofGenesis genesis scenario.amounts.fee) (nodeIds genesis) network)
    (hfunded : genesis.funded = Genesis.localNet.funded)
    (hvalid : scenario.amounts.validate = .ok ())
    (hseed : scenario.amounts.stake.toNat + 2 * scenario.amounts.fee.toNat
      < scenario.amounts.seed.toNat)
    (hfunds : 2 * (scenario.amounts.total.toNat + scenario.amounts.fee.toNat)
      ≤ Ledger.fundedBalance.toNat)
    (hvfits : settings.schedule.Fits settings.schedule.validationPeriod epoch now)
    (hdfits : settings.schedule.Fits settings.schedule.delegationPeriod epoch
      (settings.schedule.begun now)) :
    ∃ roster later left,
      (Network.liftTimed ((scenario.stake genesis (fleetOf fleetSettings (nodeIds genesis))).alone
          (Roster.empty settings))).runOn deployment.handler ⟨epoch, now, network⟩
        = (.ok ((), roster), ⟨epoch, later, { network with ledger := left }⟩)
      ∧ ∃ validator delegator, roster.participant validatorId = .ok validator
        ∧ roster.participant delegatorId = .ok delegator
        ∧ validator.nodeId = nodeIdOf validatorId
        ∧ Settlement scenario.amounts validator delegator genesis.funded.address
          Ledger.fundedBalance.toNat left.holdings := by
  obtain ⟨firstIp, hfirst⟩ := @tracked_fleetOf (nodeIds genesis) fleetSettings validatorId
    (List.mem_append_right _ (by simp))
  obtain ⟨secondIp, hsecond⟩ := @tracked_fleetOf (nodeIds genesis) fleetSettings delegatorId
    (List.mem_append_right _ (by simp))
  obtain ⟨⟨⟨⟩, roster⟩, later, left, hrun, ⟨funder, hroster⟩, hsettled⟩ :=
    (@drivesFrom_stake epoch network now settings scenario genesis _ _ _ hfirst hsecond hfunded
      hvalid hseed hfunds hvfits hdfits).alone _ (Ledger.holdings_ofGenesis _ _)
  have hne : validatorId ≠ delegatorId := by decide
  obtain ⟨hvalidator, hdelegator⟩ := @Roster.participant_insert_insert
    (TrackedNode.enrolled ⟨validatorId, firstIp, ⟨validatorId, firstIp⟩⟩ validatorUser settings)
    (TrackedNode.enrolled ⟨delegatorId, secondIp, ⟨delegatorId, secondIp⟩⟩ delegatorUser settings)
    (Roster.empty settings) rfl hne (some funder)
  obtain rfl : roster = _ := hroster
  refine ⟨_, later, left, ?_, _, _, hvalidator, hdelegator, rfl, hsettled⟩
  -- the network is at a moment of its own, since it still has the first ledger
  have hnow : (⟨epoch, now, network⟩ : Timeline LocalNetwork)
      = moment epoch network now (Ledger.ofGenesis genesis scenario.amounts.fee) := by
    rw [← hruns.ledger_eq]
    rfl
  rw [Network.runOn_liftTimed, hnow]
  exact hrun

/-- **A scenario runs to its end** on a fresh network in memory: for any
stakers, any number of nodes that join in the end as long as there is an
address for each, and any amounts that pass their check, if the seed leaves
something to bring back and the funded account can pay both participants.

Each wait for a node has at least one attempt, and the times of both stakes
do not overflow; the delegation is asked for when the validation has begun. -/
theorem run_completes (scenario : Scenario) (env : Environment) (params : NetworkParams)
    (genesis : Genesis) (settings : StakingSettings) (fleetSettings : FleetSettings)
    (epoch now : Duration)
    (himage : Text.isBlankText params.image = false)
    (hfunded : genesis.funded = Genesis.localNet.funded)
    (hvalid : scenario.amounts.validate = .ok ())
    (hseed : scenario.amounts.stake.toNat + 2 * scenario.amounts.fee.toNat
      < scenario.amounts.seed.toNat)
    (hfunds : 2 * (scenario.amounts.total.toNat + scenario.amounts.fee.toNat)
      ≤ Ledger.fundedBalance.toNat)
    (hroom : genesis.stakers.length + 2 + scenario.addedNodes ≤ 254)
    (hwave : 0 < fleetSettings.bootstrapWave.maxAttempts.toNat)
    (hstartup : 0 < fleetSettings.startup.maxAttempts.toNat)
    (hvfits : settings.schedule.Fits settings.schedule.validationPeriod epoch now)
    (hdfits : settings.schedule.Fits settings.schedule.delegationPeriod epoch
      (settings.schedule.begun now)) :
    ∃ d roster site later network,
      scenario.definition env params genesis = .ok d
      ∧ d.nodes.map NodeConfig.id = nodeIds genesis
      ∧ (scenario.run env genesis settings).runOn deployment.handler
          ⟨d, Fleet.empty fleetSettings⟩
          ⟨epoch, now, LocalNetwork.ofGenesis genesis scenario.amounts.fee⟩
        = ((.ok roster, site), ⟨epoch, later, network⟩)
      ∧ scenario.Completed genesis roster site.fleet network.ledger := by
  obtain ⟨d, hdefinition, hintact, hparams⟩ :=
    @definition_eq_ok scenario env params genesis himage
  have hids : d.nodes.map NodeConfig.id = nodeIds genesis := by
    rw [Definition.map_id_eq, hparams, map_id_nodeParams]
  have hlength : (nodeIds genesis).length = genesis.stakers.length + 2 := by
    simp [nodeIds]
  -- starting moves neither the clock nor the ledger
  obtain ⟨⟨⟩, started, hstart, hstarted, -⟩ :=
    grows_startNetwork_definition hintact hparams (by omega) hwave hstartup _ epoch now _
      (runs_ofGenesis genesis scenario.amounts.fee)
  obtain ⟨roster, later, left, hstake, hsettled⟩ :=
    runOn_stake hstarted hfunded hvalid hseed hfunds hvfits hdfits
  -- whatever the ledger has become, the services run on and others can join them
  have hcovers : Covers (nodeIds genesis) d := ⟨hintact, hids ▸ List.Subset.refl _⟩
  obtain ⟨nodes, site, final, hadded, hfinal, hfleet, -⟩ :=
    @runOn_addNodesFrom _ d _ _ fleetSettings epoch later env scenario.image 1
      scenario.addedNodes hcovers (hstarted.settle left) hstartup (hlength ▸ hroom)
      (nodup_nodeIds genesis scenario.addedNodes)
  refine ⟨d, roster, site, later, final, hdefinition, hids, ?_, ?_, ?_⟩
  · unfold run
    refine (Action.runOn_bind_ok (Action.runOn_ofExcept (by rw [hvalid]; rfl))).trans ?_
    refine (Action.runOn_bind_ok Action.runOn_state).trans ?_
    refine (Action.runOn_bind_ok (Action.runOn_wrap _ (runOn_ofFleet hstart))).trans ?_
    refine (Action.runOn_bind_ok Action.runOn_state).trans ?_
    refine (Action.runOn_bind_ok (Action.runOn_lift hstake)).trans ?_
    refine (Action.runOn_bind_ok hadded).trans ?_
    rfl
  · rw [hfinal.ledger_eq]
    exact hsettled
  · rw [hfleet, map_id_fleetOf]

/-- The usual scenario on the local network. -/
theorem run_completes_usual :
    ∃ d roster site later network,
      usual.definition .empty { Environment.empty.networkParams with image := LocalNetwork.image }
          Genesis.localNet = .ok d
      ∧ d.nodes.map NodeConfig.id = nodeIds Genesis.localNet
      ∧ (usual.run .empty Genesis.localNet LocalNetwork.stakingSettings).runOn deployment.handler
          ⟨d, Fleet.empty LocalNetwork.fleetSettings⟩
          ⟨Duration.ofSeconds 1700000000, ⟨0⟩,
            LocalNetwork.ofGenesis Genesis.localNet usual.amounts.fee⟩
        = ((.ok roster, site), ⟨Duration.ofSeconds 1700000000, later, network⟩)
      ∧ usual.Completed Genesis.localNet roster site.fleet network.ledger :=
  run_completes usual .empty
    { Environment.empty.networkParams with image := LocalNetwork.image } Genesis.localNet
    LocalNetwork.stakingSettings LocalNetwork.fleetSettings (Duration.ofSeconds 1700000000) ⟨0⟩
    (by decide) rfl (by decide) (by decide) (by decide) (by decide) (by decide) (by decide)
    ⟨by decide, by decide⟩ ⟨by decide, by decide⟩

end Scenario

end LedgerNet
