import LedgerNet.Proofs.Definition.Preset
import LedgerNet.Proofs.LocalNetwork.Starting

/-!
# Starting what is defined

A definition from which nothing was taken out can be started on a network in
memory that runs nothing: every node depends on bootstrap nodes, and every
bootstrap node on those before it. On such a network more nodes can join.
They are added to the definition and to the fleet, so a site stays one where
all that is defined is running (`Covers`).
-/

namespace LedgerNet

namespace LocalNetwork

variable {ids : List String} {d : Definition}

/-! ## The order of the starts -/

/-- **Nodes with new ids can start** if each depends on nodes that are running
or come before it. -/
theorem startable_of_nodup {nodes : List NodeConfig}
    (hnodup : (ids ++ nodes.map NodeConfig.id).Nodup) (hroom : ids.length + nodes.length ≤ 254)
    (hdeps : ∀ before node after, nodes = before ++ node :: after →
      ∀ peer ∈ node.dependsOn, peer.node ∈ ids ++ before.map NodeConfig.id) :
    Startable ids nodes := by
  induction nodes generalizing ids with
  | nil => trivial
  | cons node rest ih =>
    have hnew : node.id ∉ ids := notMem_of_nodup_append hnodup
    rw [List.length_cons] at hroom
    rw [List.map_cons, List.append_cons] at hnodup
    have hnow : ∀ peer ∈ node.dependsOn, peer.node ∈ ids := by
      intro peer hpeer
      simpa using hdeps [] node rest rfl peer hpeer
    refine ⟨hnew, hnow, by omega, ih hnodup ?_ ?_⟩
    · rw [List.length_append, List.length_singleton]
      omega
    · intro before other after hsplit peer hpeer
      have hmem := hdeps (node :: before) other after (by rw [hsplit]; rfl) peer hpeer
      rwa [List.map_cons, List.append_cons] at hmem

/-- **A definition from which nothing was taken out can be started**, if there
are addresses for all of its nodes. -/
theorem startable_of_intact (h : d.Intact) (hroom : d.nodes.length ≤ 254) :
    Startable [] (d.bootstrapNodes ++ d.regularNodes) := by
  have hnodup : ((d.bootstrapNodes ++ d.regularNodes).map NodeConfig.id).Nodup :=
    (h.perm_nodes.map NodeConfig.id).nodup_iff.2 h.consistent.nodup
  rw [← h.perm_nodes.length_eq] at hroom
  refine startable_of_nodup hnodup (by simpa using hroom) ?_
  intro before node after hsplit peer hpeer
  obtain ⟨other, hother, rfl⟩ := h.exists_before_of_dependsOn hsplit hpeer
  exact List.mem_map_of_mem hother

/-! ## Joining -/

/-- **All that is defined is running**, and nothing was taken out of the
definition. -/
structure Covers (ids : List String) (d : Definition) : Prop where
  intact : d.Intact
  running : d.nodes.map NodeConfig.id ⊆ ids

variable {ledger : Ledger} {network : LocalNetwork} {settings : FleetSettings}
  {epoch now : Duration} {params : NodeParams} {env : Environment} {image : Option String}

/-- The nodes that an added node depends on are running. -/
theorem Covers.mem_of_chain (h : Covers ids d) {peer : Peer} (hpeer : peer ∈ d.chain) :
    peer.node ∈ ids := by
  rw [h.intact.consistent.chain_eq_chainOf] at hpeer
  obtain ⟨node, hmem, -, rfl⟩ := mem_chainOf.1 hpeer
  exact h.running (List.mem_map_of_mem hmem)

/-- A change of the fleet alone leaves the definition as it is. -/
theorem runOn_ofFleet {ε α : Type} {p : FleetAction LocalClient ε α} {site : Site LocalClient}
    {t t' : Timeline LocalNetwork} {value : α} {fleet : Fleet LocalClient}
    (h : p.runOn deployment.handler site.fleet t = ((.ok value, fleet), t')) :
    (Site.ofFleet p).runOn deployment.handler site t = ((.ok value, { site with fleet }), t') :=
  Action.runOn_within h

/-- **A node joins**: it is added to the definition and to the fleet. -/
theorem runOn_addNode (hcovers : Covers ids d) (hruns : Runs ledger ids network)
    (hattempts : 0 < settings.startup.maxAttempts.toNat) (hroom : ids.length + 2 < 256)
    (hempty : params.id ≠ "") (hregular : params.role = .regular) (hnew : params.id ∉ ids) :
    ∃ tracked started,
      (Site.addNode params).runOn deployment.handler ⟨d, fleetOf settings ids⟩
          ⟨epoch, now, network⟩
        = ((.ok tracked, ⟨d.extended params, fleetOf settings (ids ++ [params.id])⟩),
          ⟨epoch, now, started⟩)
      ∧ Runs ledger (ids ++ [params.id]) started
      ∧ Covers (ids ++ [params.id]) (d.extended params) := by
  obtain ⟨hadd, hextended⟩ := hcovers.intact.add hempty (fun hmem => hnew (hcovers.running hmem))
    fun ordinal hbootstrap => by simp [hregular] at hbootstrap
  have hdefined : (Site.define params).runOn deployment.handler
        (⟨d, fleetOf settings ids⟩ : Site LocalClient) ⟨epoch, now, network⟩
      = ((.ok ⟨params, d.chain⟩, ⟨d.extended params, fleetOf settings ids⟩),
        ⟨epoch, now, network⟩) := by
    refine (Action.runOn_bind_ok Action.runOn_state).trans ?_
    rw [hadd]
    rfl
  obtain ⟨tracked, started, hcreated, hgrown, -⟩ :=
    @grows_create ids settings (d.extended params) ⟨params, d.chain⟩ hnew
      (fun peer hpeer => hcovers.mem_of_chain hpeer) hroom hattempts ledger epoch now network hruns
  refine ⟨tracked, started, ?_, hgrown, hextended, ?_⟩
  · refine (Action.runOn_bind_ok hdefined).trans ?_
    refine (Action.runOn_bind_ok Action.runOn_state).trans ?_
    exact Action.runOn_bind_ok (Action.runOn_outcome (runOn_ofFleet hcreated))
  · intro id hid
    rw [Definition.map_id_eq, Definition.map_params_extended, List.map_append,
      ← Definition.map_id_eq, List.mem_append] at hid
    exact List.mem_append.2 (hid.imp_left fun hmem => hcovers.running hmem)

/-- **Nodes join one after the other**, from a position on. The induction is on
how many are left, and the site they join grows with every one of them. -/
theorem runOn_addNodesFrom {index left : Nat} (hcovers : Covers ids d)
    (hruns : Runs ledger ids network) (hattempts : 0 < settings.startup.maxAttempts.toNat)
    (hroom : ids.length + left ≤ 254)
    (hnodup : (ids ++ (List.range' index left).map Site.addedNodeId).Nodup) :
    ∃ nodes site started,
      (Site.addNodesFrom env image index left).runOn deployment.handler ⟨d, fleetOf settings ids⟩
          ⟨epoch, now, network⟩
        = ((.ok nodes, site), ⟨epoch, now, started⟩)
      ∧ Runs ledger (ids ++ (List.range' index left).map Site.addedNodeId) started
      ∧ site.fleet = fleetOf settings (ids ++ (List.range' index left).map Site.addedNodeId)
      ∧ Covers (ids ++ (List.range' index left).map Site.addedNodeId) site.definition := by
  induction left generalizing ids d index network with
  | zero =>
    refine ⟨[], ⟨d, fleetOf settings ids⟩, network, rfl, ?_⟩
    simpa using ⟨hruns, hcovers⟩
  | succ left ih =>
    have hnew : Site.addedNodeId index ∉ ids := notMem_of_nodup_append hnodup
    rw [List.range'_succ, List.map_cons, List.append_cons] at hnodup ⊢
    have hempty : Site.addedNodeId index ≠ "" := ne_of_head?_ne (by simp [Site.head?_addedNodeId])
    obtain ⟨tracked, started, hadded, hgrown, hcovered⟩ :=
      @runOn_addNode ids d ledger network settings epoch now (Site.addedNode env image index)
        hcovers hruns hattempts (by omega) hempty rfl hnew
    obtain ⟨nodes, site, final, hrest, hfinal⟩ := ih hcovered hgrown
      (by rw [List.length_append]; simpa [Nat.add_assoc, Nat.add_comm 1] using hroom) hnodup
    refine ⟨tracked :: nodes, site, final, ?_, hfinal⟩
    refine (Action.runOn_bind_ok hadded).trans ?_
    refine (Action.runOn_bind_ok hrest).trans ?_
    rfl

end LocalNetwork

end LedgerNet
