import LedgerNet.Proofs.Program.Recording
import LedgerNet.Proofs.Staking.Retrying

/-!
# What adding nodes does to the definition

A call that adds nodes writes to the definition before it knows whether a node
makes it, and takes the node out again if it does not. However the call ends,
the definition is then the one from before with the first few of the added
nodes behind its own, each stamped with the whole chain
(`Definition.withAdded`). The first few are all of them if the call goes well,
and those before the node that failed if it does not.

That nothing else changes is not for free. To take out a node is to leave out
everything under its id, also in the chain, and the call could hit a node that
was there before. It does not, because a node is only taken out that the
definition had nothing against, and in a definition that has come about by
edits the chain has no entry whose node is not defined.

A node whose wait crashes is an exception: nobody is left to take it out.
-/

namespace LedgerNet

variable {κ σ : Type}

/-- **A definition with the first added nodes**: they stand behind its own, in
the order of their positions, and each of them is stamped with its chain. -/
def Definition.withAdded (d : Definition) (env : Environment) (image : Option String)
    (count : Nat) : Definition :=
  { d with nodes := d.nodes
      ++ (List.range' 1 count).map fun index => ⟨Site.addedNode env image index, d.chain⟩ }

/-- One added node more is stamped with the chain that the others are stamped
with, since none of them is in it. -/
theorem Definition.extended_withAdded (d : Definition) (env : Environment) (image : Option String)
    (count : Nat) :
    (d.withAdded env image count).extended (Site.addedNode env image (count + 1))
      = d.withAdded env image (count + 1) := by
  unfold Definition.withAdded Definition.extended
  rw [List.range'_1_concat, List.map_append, ← List.append_assoc, Nat.add_comm 1 count]
  rfl

namespace Site

variable {site between left : Site κ} {env : Environment} {image : Option String}
  {params : NodeParams} {tracked : TrackedNode κ} {history : List (NetworkEvent κ)}

/-! ## One node -/

/-- The definition has nothing against a node that joins. -/
theorem accepted_of_ok (h : (addNode params).Unfolds site history (.ok tracked) left) :
    site.definition.objection? params = none := by
  unfold addNode at h
  rcases Action.unfolds_bind.1 h with ⟨_, -, hnever⟩ | ⟨_, _, _, _, -, hdefined, -⟩
  · cases hnever
  · obtain ⟨-, ⟨_, -, hnever, -⟩ | ⟨haccepted, -⟩⟩ := unfolds_define hdefined
    · cases hnever
    · exact haccepted

/-- **A node that joins is tracked** under its id. -/
theorem Joining.tracked_eq (h : Joining params site history (.ok tracked) left) :
    left.fleet.tracked tracked.id = .ok tracked := by
  generalize hended : (Except.ok tracked : Outcome StakingError (TrackedNode κ)) = outcome at h
  cases h with
  | refused => cases hended
  | crashed => cases hended
  | rolledBack => cases hended
  | joined hmaking =>
    obtain rfl := Except.ok.inj hended
    obtain ⟨_, ip, client, _, hnew, -⟩ := Fleet.Made.of_ok hmaking
    obtain ⟨hid, rfl⟩ := hmaking.joined
    exact Fleet.tracked_insert (hid ▸ hnew)

/-- **A node that fails is not in the definition**, and whoever was there
before is. -/
theorem Joining.definition_of_failed {cause : StakingError}
    (hconsistent : site.definition.Consistent)
    (h : Joining params site history (Outcome.failed cause) left) :
    left.definition = site.definition := by
  generalize hended : (Outcome.failed cause : Outcome StakingError (TrackedNode κ)) = outcome at h
  cases h with
  | refused => rfl
  | joined => cases hended
  | crashed => cases hended
  | rolledBack _ _ haccepted =>
    exact hconsistent.remove_extended (Definition.fresh_of_accepted haccepted).2

/-- A node whose wait crashes is left in the definition. -/
theorem Joining.definition_of_crashed {cause : Crash}
    (h : Joining params site history (Outcome.crashed cause) left) :
    left.definition = site.definition.extended params := by
  generalize hended : (Outcome.crashed cause : Outcome StakingError (TrackedNode κ)) = outcome at h
  cases h with
  | refused => cases hended
  | joined => cases hended
  | crashed => rfl
  | rolledBack => cases hended

/-! ## Several nodes -/

/-- **A site has gained nodes**: it has grown by them, each of them is tracked
under its id, and the definition is as sound as it was. -/
structure Gained (env : Environment) (image : Option String) (site : Site κ)
    (positions : List Nat) (nodes : List (TrackedNode κ)) (left : Site κ) : Prop
    extends Grown env image site positions nodes left where
  tracked : ∀ node ∈ nodes, left.fleet.tracked node.id = .ok node
  consistent : site.definition.Consistent → left.definition.Consistent

section Gained

variable {positions more : List Nat} {nodes others : List (TrackedNode κ)} {index count : Nat}

/-- Whoever is tracked is tracked when others have come. -/
theorem Grown.tracked_of_tracked (h : Grown env image site positions nodes left) {id : String}
    (htracked : site.fleet.tracked id = .ok tracked) : left.fleet.tracked id = .ok tracked := by
  unfold Fleet.tracked Fleet.node? at htracked ⊢
  rw [h.fleet]
  cases hfound : site.fleet.nodes.find? (·.id == id) with
  | none => simp [hfound] at htracked
  | some node => simpa [List.find?_append, hfound] using htracked

theorem Gained.refl (site : Site κ) : Gained env image site [] [] site :=
  ⟨.refl site, fun _ hnever => absurd hnever List.not_mem_nil, id⟩

/-- A site that has gained nodes gains others. -/
theorem Gained.trans (h : Gained env image site positions nodes between)
    (hmore : Gained env image between more others left) :
    Gained env image site (positions ++ more) (nodes ++ others) left where
  toGrown := h.toGrown.trans hmore.toGrown
  tracked := List.forall_mem_append.2
    ⟨fun node hmem => hmore.tracked_of_tracked (h.tracked node hmem), hmore.tracked⟩
  consistent hconsistent := hmore.consistent (h.consistent hconsistent)

/-- **A site gains a node that joins.** -/
theorem gained_addNode
    (h : (addNode (addedNode env image index)).Unfolds site history (.ok tracked) left) :
    Gained env image site [index] [tracked] left where
  toGrown := (joining_addNode h).grown
  tracked := List.forall_mem_singleton.2 (joining_addNode h).tracked_eq
  consistent hconsistent := by
    rw [(joining_addNode h).of_ok.2]
    exact hconsistent.extended (accepted_of_ok h)

/-- **A site gains all nodes of a call that goes well.** -/
theorem gained_addNodesFrom
    (h : (addNodesFrom env image index count).Unfolds site history (.ok nodes) left) :
    Gained env image site (List.range' index count) nodes left := by
  induction count generalizing index site nodes history with
  | zero =>
    obtain ⟨-, hnodes, rfl⟩ := Action.unfolds_pure.1 h
    obtain rfl := Except.ok.inj hnodes
    exact .refl left
  | succ count ih =>
    rcases Action.unfolds_bind.1 h with ⟨_, -, hnever⟩ | ⟨tracked, _, _, _, -, hjoined, hrest⟩
    · cases hnever
    rcases Action.unfolds_bind.1 hrest with ⟨_, -, hnever⟩ | ⟨others, _, _, _, -, hothers, hended⟩
    · cases hnever
    obtain ⟨-, hnodes, rfl⟩ := Action.unfolds_pure.1 hended
    obtain rfl := Except.ok.inj hnodes
    exact (gained_addNode hjoined).trans (ih hothers)

end Gained

/-! ## Where a call ends -/

/-- **A call goes well, or it ends at a node**: those before the node have been
added, as they are by a call for them alone, and the failure is that of adding
the node. -/
theorem runOn_addNodesFrom_cases (handler : Proc.Handler (Network κ) (Timeline σ))
    (env : Environment) (image : Option String) (index count : Nat) (site : Site κ)
    (t : Timeline σ) :
    (∃ nodes left ended, (addNodesFrom env image index count).runOn handler site t
        = ((.ok nodes, left), ended))
      ∨ ∃ joined < count, ∃ nodes between later failure left ended,
        (addNodesFrom env image index joined).runOn handler site t = ((.ok nodes, between), later)
        ∧ (addNode (addedNode env image (index + joined))).runOn handler between later
          = ((.error failure, left), ended)
        ∧ (addNodesFrom env image index count).runOn handler site t
          = ((.error failure, left), ended) := by
  induction count generalizing index site t with
  | zero => exact Or.inl ⟨[], site, t, rfl⟩
  | succ count ih =>
    generalize hfirst : (addNode (addedNode env image index)).runOn handler site t = run
    obtain ⟨⟨outcome, between⟩, later⟩ := run
    cases outcome with
    | error failure =>
      refine Or.inr ⟨0, Nat.succ_pos count, [], site, t, failure, between, later, rfl, hfirst, ?_⟩
      exact Action.runOn_bind_error hfirst
    | ok tracked =>
      have hfrom : ∀ others, (addNodesFrom env image index (others + 1)).runOn handler site t
          = (addNodesFrom env image (index + 1) others >>= fun nodes =>
              pure (tracked :: nodes)).runOn handler between later :=
        fun others => Action.runOn_bind_ok hfirst
      rcases ih (index + 1) between later with
        ⟨nodes, left, ended, hrest⟩
        | ⟨joined, hlt, nodes, before, start, failure, left, ended, hnodes, hfailed, hrest⟩
      · exact Or.inl ⟨tracked :: nodes, left, ended,
          (hfrom count).trans (Action.runOn_bind_ok hrest)⟩
      · refine Or.inr ⟨joined + 1, Nat.succ_lt_succ hlt, tracked :: nodes, before, start, failure,
          left, ended, ?_, ?_, ?_⟩
        · exact (hfrom joined).trans (Action.runOn_bind_ok hnodes)
        · rwa [Nat.add_comm joined 1, ← Nat.add_assoc]
        · exact (hfrom count).trans (Action.runOn_bind_error hrest)

/-- **What adding nodes does to the definition**, on every deployment, whoever
runs, and whatever definition has come about by edits. If the call goes well
the definition has gained all nodes, the nodes that are answered are those, in
their order, and they are tracked. If it fails the nodes before the one that
failed have been added, and the definition has gained these; after a crash the
node that was waited for is left in it. -/
theorem addNodes_definition (deployment : Deployment κ σ) {params : NetworkParams}
    {empty : Definition} (hempty : Definition.ofParams params = .ok empty) (edits : List Edit)
    (fleet : Fleet κ) (env : Environment) (image : Option String) (count : Nat) (t : Timeline σ) :
    let d := empty.editedAll edits
    let run (count : Nat) := (addNodes env image count).runOn deployment.handler ⟨d, fleet⟩ t
    (∃ nodes left ended, run count = ((.ok nodes, left), ended)
        ∧ left.definition = d.withAdded env image count
        ∧ nodes.map TrackedNode.id = (List.range' 1 count).map addedNodeId
        ∧ ∀ node ∈ nodes, left.fleet.tracked node.id = .ok node)
      ∨ ∃ joined < count, ∃ nodes between later failure left ended,
        run joined = ((.ok nodes, between), later)
        ∧ (addNode (addedNode env image (joined + 1))).runOn deployment.handler between later
          = ((.error failure, left), ended)
        ∧ run count = ((.error failure, left), ended)
        ∧ left.definition = d.withAdded env image
          (match failure with
            | .error _ => joined
            | .crash _ => joined + 1) := by
  intro d run
  have hconsistent : d.Consistent := (Definition.Consistent.ofParams hempty).editedAll edits
  rcases runOn_addNodesFrom_cases deployment.handler env image 1 count ⟨d, fleet⟩ t with
    ⟨nodes, left, ended, hrun⟩
    | ⟨joined, hlt, nodes, between, later, failure, left, ended, hjoined, hfailed, hrun⟩
  · obtain ⟨_, hunfolds⟩ := Action.exists_unfolds deployment hrun
    have hgained := gained_addNodesFrom hunfolds
    exact Or.inl ⟨nodes, left, ended, hrun, hgained.definition, hgained.ids, hgained.tracked⟩
  · rw [Nat.add_comm 1 joined] at hfailed
    refine Or.inr ⟨joined, hlt, nodes, between, later, failure, left, ended, hjoined, hfailed,
      hrun, ?_⟩
    obtain ⟨_, hbefore⟩ := Action.exists_unfolds deployment hjoined
    obtain ⟨_, hlast⟩ := Action.exists_unfolds deployment hfailed
    have hgained := gained_addNodesFrom hbefore
    have hbetween : between.definition = d.withAdded env image joined := hgained.definition
    cases failure with
    | error cause =>
      exact ((joining_addNode hlast).definition_of_failed (hgained.consistent hconsistent)).trans
        hbetween
    | crash cause =>
      rw [(joining_addNode hlast).definition_of_crashed, hbetween]
      exact d.extended_withAdded env image joined

/-- **A deployment with room for one service more.** -/
def crowded : Deployment Ip Nat :=
  { Fleet.obliging with
    start := fun spec started =>
      if started = 0 then Fleet.obliging.start spec started
      else (.error (.ofText "no room"), started) }

/-- Of three nodes that are added where there is room for one, the first is in
the definition in the end, behind the bootstrap node that was there before. -/
theorem addNodes_definition_crowded :
    let run (count : Nat) :=
      (addNodes .empty none count).runOn crowded.handler single ⟨⟨0⟩, ⟨0⟩, 0⟩
    ∃ nodes between later left ended, run 1 = ((.ok nodes, between), later)
      ∧ run 3 = ((Outcome.failed (.fleet (.start "new-node-2" (.ofText "no room"))), left), ended)
      ∧ left.definition = single.definition.withAdded .empty none 1 := by
  have hempty : Definition.ofParams ⟨"node", 1, 1, 1⟩ = .ok ⟨⟨"node", 1, 1, 1⟩, [], []⟩ := by decide
  have hfailed : ((addNodes .empty none 3).runOn crowded.handler single ⟨⟨0⟩, ⟨0⟩, 0⟩).1.1
      = Outcome.failed (.fleet (.start "new-node-2" (.ofText "no room"))) := by rfl
  have hlength : ((addNodes .empty none 3).runOn crowded.handler single
      ⟨⟨0⟩, ⟨0⟩, 0⟩).1.2.definition.nodes.length = 2 := by decide +kernel
  intro run
  rcases addNodes_definition crowded hempty
      [.add { NodeParams.plain .empty "b1" with role := .bootstrap 0 }] single.fleet .empty none 3
      ⟨⟨0⟩, ⟨0⟩, 0⟩ with
    ⟨_, _, _, hall, -⟩
    | ⟨joined, -, nodes, between, later, failure, left, ended, hjoined, -, hall, hdefinition⟩
  · cases hfailed.symm.trans (congrArg (fun ended => ended.1.1) hall)
  · have hfailure : Except.error failure = _ :=
      (congrArg (fun ended => ended.1.1) hall).symm.trans hfailed
    obtain rfl := Except.error.inj hfailure
    have hgrown : left.definition.nodes.length = 2 :=
      (congrArg (fun ended => ended.1.2.definition.nodes.length) hall).symm.trans hlength
    have hadded : left.definition = single.definition.withAdded .empty none joined := hdefinition
    have hone : joined = 1 := by
      have hbefore : single.definition.nodes.length = 1 := rfl
      simp only [hadded, Definition.withAdded, List.length_append, hbefore, List.length_map,
        List.length_range'] at hgrown
      omega
    subst hone
    exact ⟨nodes, between, later, left, ended, hjoined, hall, hadded⟩

end Site

end LedgerNet
