import LedgerNet.Proofs.Fleet.Completion
import LedgerNet.Rehearsal.LocalNetwork

/-!
# Adding nodes once more

A call that adds nodes to a running network ends at the first one that does
not make it. This node is taken out of the definition and of the fleet, and
nothing of it is left there: the site is what it was before the node
(`Joining.eq_of_failed`). The nodes that joined before it in the same call
stay.

So it depends on the place of the failure what the same call comes to when it
is made once more. If the first node failed the site is unchanged, and the
call goes well as soon as nothing fails any more. If a later one did, the
positions are counted from one again, the id at the first of them is taken,
and the call is refused before anything is asked of the network. It does not
matter then what has become of the reason for the failure
(`addNodes_retried`).
-/

namespace LedgerNet

variable {κ σ : Type}

namespace Site

variable {site left : Site κ} {env : Environment} {image : Option String} {params : NodeParams}

/-! ## Sites -/

/-- **A network that nodes can join**: its definition is consistent, and all
bootstrap nodes of it are running. -/
structure Running (site : Site κ) : Prop where
  consistent : site.definition.Consistent
  linked : ∀ peer ∈ site.definition.chain, site.fleet.contains peer.node = true

/-- **An id is new to a site**: no node is defined under it, and none runs. -/
structure Lacks (site : Site κ) (id : String) : Prop where
  undefined : site.definition.contains id = false
  untracked : site.fleet.contains id = false

/-- **A site has grown by added nodes**: they are defined, at some positions,
and they are running. -/
structure Grown (env : Environment) (image : Option String) (site : Site κ)
    (positions : List Nat) (nodes : List (TrackedNode κ)) (left : Site κ) : Prop where
  ids : nodes.map TrackedNode.id = positions.map addedNodeId
  definition : left.definition = { site.definition with
    nodes := site.definition.nodes
      ++ positions.map fun index => ⟨addedNode env image index, site.definition.chain⟩ }
  fleet : left.fleet = { site.fleet with nodes := site.fleet.nodes ++ nodes }

namespace Grown

variable {positions more : List Nat} {nodes others : List (TrackedNode κ)} {between : Site κ}

/-- A site grows by no nodes. -/
theorem refl (site : Site κ) : Grown env image site [] [] site :=
  ⟨rfl, by simp, by simp⟩

/-- A site that has grown by no nodes is what it was. -/
theorem eq_of_nil (h : Grown env image site [] nodes left) : left = site := by
  obtain rfl : nodes = [] := List.map_eq_nil_iff.1 h.ids
  obtain ⟨definition, fleet⟩ := left
  obtain ⟨-, rfl, rfl⟩ := h
  simp

/-- A site that has grown grows on. -/
theorem trans (h : Grown env image site positions nodes between)
    (hmore : Grown env image between more others left) :
    Grown env image site (positions ++ more) (nodes ++ others) left := by
  refine ⟨?_, ?_, ?_⟩
  · rw [List.map_append, List.map_append, h.ids, hmore.ids]
  · rw [hmore.definition, h.definition]
    simp
  · rw [hmore.fleet, h.fleet]
    simp

/-- **What a site has grown by is defined**. -/
theorem defines (h : Grown env image site positions nodes left) {index : Nat}
    (hindex : index ∈ positions) : left.definition.contains (addedNodeId index) = true := by
  rw [Definition.contains_iff, h.definition]
  exact ⟨⟨addedNode env image index, site.definition.chain⟩,
    List.mem_append_right _ (List.mem_map_of_mem hindex), rfl⟩

end Grown

/-! ## One node -/

/-- What can become of a node that has been added to the definition of a
site, in the fleet. -/
abbrev Making (params : NodeParams) (site : Site κ) :
    List (NetworkEvent κ) → Outcome FleetError (TrackedNode κ) → Fleet κ → Prop :=
  Fleet.Made (site.definition.extended params)
    (.awaited site.fleet.settings.startup.maxAttempts.toNat) ⟨params, site.definition.chain⟩
    site.fleet

/-- **What happens when a node is taken out of a fleet**: its service is asked to
stop if the node is tracked, and nothing happens otherwise. -/
inductive TakenOut (fleet : Fleet κ) (id : String) : List (NetworkEvent κ) → Prop where
  | gone (h : fleet.contains id = false) : TakenOut fleet id []
  | stopped (h : fleet.contains id = true) (reply : Except ServiceError Unit) :
    TakenOut fleet id [.stop id fleet.settings.grace reply]

/-- **What can become of a node that is added to a site**: the definition has
an objection, or the node joins, or the wait for it crashes, or it does not
make it and is taken out again. -/
inductive Joining (params : NodeParams) (site : Site κ) :
    List (NetworkEvent κ) → Outcome StakingError (TrackedNode κ) → Site κ → Prop where
  | refused {cause : DefinitionError} (h : site.definition.objection? params = some cause) :
    Joining params site [] (Outcome.failed (.configuration cause)) site
  | joined {history : List (NetworkEvent κ)} {tracked : TrackedNode κ} {fleet : Fleet κ}
    (h : Making params site history (.ok tracked) fleet) :
    Joining params site history (.ok tracked) ⟨site.definition.extended params, fleet⟩
  | crashed {history : List (NetworkEvent κ)} {cause : Crash} {fleet : Fleet κ}
    (h : Making params site history (Outcome.crashed cause) fleet) :
    Joining params site history (Outcome.crashed cause) ⟨site.definition.extended params, fleet⟩
  | rolledBack {history stopped : List (NetworkEvent κ)} {cause : FleetError} {fleet : Fleet κ}
    (h : Making params site history (Outcome.failed cause) fleet)
    (hout : TakenOut fleet params.id stopped)
    (haccepted : site.definition.objection? params = none) :
    Joining params site (history ++ stopped) (Outcome.failed (.fleet cause))
      ⟨((site.definition.extended params).remove params.id).2, fleet.erase params.id⟩

section Unfolding

variable {history : List (NetworkEvent κ)}

/-- A node is defined, or the definition has an objection. -/
theorem unfolds_define {outcome : Outcome StakingError NodeConfig}
    (h : (define params).Unfolds site history outcome left) :
    history = [] ∧ ((∃ cause, site.definition.objection? params = some cause
        ∧ outcome = Outcome.failed (.configuration cause) ∧ left = site)
      ∨ site.definition.objection? params = none
        ∧ outcome = .ok ⟨params, site.definition.chain⟩
        ∧ left = ⟨site.definition.extended params, site.fleet⟩) := by
  unfold define at h
  rw [Action.unfolds_state_bind] at h
  unfold Definition.add at h
  cases hobjection : site.definition.objection? params with
  | some cause =>
    rw [hobjection] at h
    obtain ⟨rfl, rfl, rfl⟩ := Action.unfolds_fail.1 h
    exact ⟨rfl, Or.inl ⟨cause, rfl, rfl, rfl⟩⟩
  | none =>
    rw [hobjection] at h
    obtain ⟨rfl, rfl, rfl⟩ := Action.unfolds_pure.1 h
    exact ⟨rfl, Or.inr ⟨rfl, rfl, rfl⟩⟩

/-- **A node that is taken out is gone**, whether or not its service stops. -/
theorem unfolds_rollBack {id : String} {outcome : Outcome StakingError Unit}
    (h : (rollBack id).Unfolds site history outcome left) :
    outcome = .ok () ∧ TakenOut site.fleet id history
      ∧ left = ⟨(site.definition.remove id).2, site.fleet.erase id⟩ := by
  unfold rollBack at h
  rw [Action.unfolds_change_bind, Action.unfolds_state_bind] at h
  split at h
  · obtain ⟨_, _, _, _, rfl, hremoved, hended⟩ := Action.unfolds_outcome_bind h
    obtain ⟨fleet, hfleet, rfl⟩ := Action.unfolds_within hremoved
    obtain ⟨rfl, rfl, rfl⟩ := Action.unfolds_pure.1 hended
    rw [List.append_nil]
    rcases Fleet.unfolds_remove hfleet with ⟨hgone, rfl, rfl⟩ | ⟨hid, rfl, reply, rfl⟩
    · rw [Fleet.erase_eq_self hgone]
      exact ⟨rfl, .gone hgone, rfl⟩
    · exact ⟨rfl, .stopped hid reply, rfl⟩
  · rename_i hgone
    obtain ⟨rfl, rfl, rfl⟩ := Action.unfolds_pure.1 h
    have huntracked := Bool.eq_false_iff.2 hgone
    rw [Fleet.erase_eq_self huntracked]
    exact ⟨rfl, .gone huntracked, rfl⟩

/-- **What can become of a node that is added.** -/
theorem joining_addNode {outcome : Outcome StakingError (TrackedNode κ)}
    (h : (addNode params).Unfolds site history outcome left) :
    Joining params site history outcome left := by
  unfold addNode at h
  rcases Action.unfolds_bind.1 h with
    ⟨_, hdefined, rfl⟩ | ⟨node, between, _, rest, rfl, hdefined, hrest⟩
  · obtain ⟨rfl, ⟨cause, hobjection, hcause, rfl⟩ | ⟨-, hnever, -⟩⟩ := unfolds_define hdefined
    · obtain rfl := Except.error.inj hcause
      exact .refused hobjection
    · cases hnever
  obtain ⟨rfl, ⟨_, -, hnever, -⟩ | ⟨haccepted, hnode, rfl⟩⟩ := unfolds_define hdefined
  · cases hnever
  obtain rfl := Except.ok.inj hnode
  rw [Action.unfolds_state_bind] at hrest
  obtain ⟨ended, _, made, after, rfl, hmade, hended⟩ := Action.unfolds_outcome_bind hrest
  obtain ⟨fleet, hcreated, rfl⟩ := Action.unfolds_within hmade
  have hmaking : Making params site made ended fleet := Fleet.made_create hcreated
  rw [List.nil_append]
  cases ended with
  | ok tracked =>
    obtain ⟨rfl, rfl, rfl⟩ := Action.unfolds_pure.1 hended
    rw [List.append_nil]
    exact .joined hmaking
  | error failure =>
    cases failure with
    | crash cause =>
      obtain ⟨rfl, rfl, rfl⟩ := Action.unfolds_ofOutcome.1 hended
      rw [List.append_nil]
      exact .crashed hmaking
    | error cause =>
      rcases Action.unfolds_bind.1 hended with
        ⟨_, hremoved, rfl⟩ | ⟨_, _, stopped, _, rfl, hremoved, hfailed⟩
      · obtain ⟨hnever, -⟩ := unfolds_rollBack hremoved
        cases hnever
      · obtain ⟨-, hout, rfl⟩ := unfolds_rollBack hremoved
        obtain ⟨rfl, rfl, rfl⟩ := Action.unfolds_fail.1 hfailed
        rw [List.append_nil]
        exact .rolledBack hmaking hout haccepted

end Unfolding

/-! ## A site that can grow -/

section Growing

variable {history : List (NetworkEvent κ)} {tracked : TrackedNode κ}

/-- An added node has an id. -/
theorem addedNodeId_ne_empty (index : Nat) : addedNodeId index ≠ "" :=
  ne_of_head?_ne (by simp [head?_addedNodeId])

/-- Nothing speaks against an added node whose id is new. -/
theorem Lacks.objection?_eq_none {index : Nat} (h : site.Lacks (addedNodeId index)) :
    site.definition.objection? (addedNode env image index) = none :=
  Definition.objection?_eq_none (addedNodeId_ne_empty index) h.undefined fun _ hnever => by
    cases hnever

/-- **A node that joins is created** under its id, and that is all that is new
in the fleet. -/
theorem Making.joined {fleet : Fleet κ} (h : Making params site history (.ok tracked) fleet) :
    tracked.id = params.id ∧ fleet = site.fleet.insert tracked := by
  obtain ⟨_, ip, client, said, -, -, -, rfl, ended, -, hended⟩ := Fleet.Made.of_ok h
  cases ended with
  | error => cases hended
  | ok =>
    rw [Except.ok.inj hended]
    exact ⟨rfl, rfl⟩

/-- **What did not make it leaves no trace.** -/
theorem Making.erase_eq {fleet : Fleet κ} {cause : Failure FleetError}
    (hnew : site.fleet.contains params.id = false)
    (h : Making params site history (.error cause) fleet) : fleet.erase params.id = site.fleet := by
  cases h with
  | unmade => exact Fleet.erase_eq_self hnew
  | made => exact Fleet.erase_insert hnew

/-- **A site is what it was** after a node that was taken out again. -/
theorem Joining.eq_of_failed {cause : FleetError} (hrunning : site.Running)
    (hnew : site.Lacks params.id)
    (h : Joining params site history (Outcome.failed (.fleet cause)) left) : left = site := by
  generalize hended : (Outcome.failed (.fleet cause) : Outcome StakingError (TrackedNode κ))
    = outcome at h
  cases h with
  | refused => cases hended
  | joined => cases hended
  | crashed => cases hended
  | rolledBack hmaking =>
    rw [hrunning.consistent.remove_extended hnew.undefined, hmaking.erase_eq hnew.untracked]

/-- If an added node with a new id does not join, it is the fleet that has a
reason, or the wait for the node has crashed. -/
theorem Joining.failure {index : Nat} {failure : Failure StakingError}
    (hnew : site.Lacks (addedNodeId index))
    (h : Joining (addedNode env image index) site history (.error failure) left) :
    (∃ cause, failure = .error (.fleet cause)) ∨ ∃ cause, failure = .crash cause := by
  generalize hended : (Except.error failure : Outcome StakingError (TrackedNode κ)) = outcome at h
  cases h with
  | refused hobjection =>
    rw [hnew.objection?_eq_none] at hobjection
    cases hobjection
  | joined => cases hended
  | crashed => exact Or.inr ⟨_, Except.error.inj hended⟩
  | rolledBack => exact Or.inl ⟨_, Except.error.inj hended⟩

/-- **A node that joins a site** is defined and tracked, and nothing else
changes. -/
theorem Joining.of_ok (h : Joining params site history (.ok tracked) left) :
    tracked.id = params.id
      ∧ left = ⟨site.definition.extended params, site.fleet.insert tracked⟩ := by
  generalize hended : (Except.ok tracked : Outcome StakingError (TrackedNode κ)) = outcome at h
  cases h with
  | refused => cases hended
  | crashed => cases hended
  | rolledBack => cases hended
  | joined hmaking =>
    obtain rfl := Except.ok.inj hended
    obtain ⟨hid, rfl⟩ := hmaking.joined
    exact ⟨hid, rfl⟩

section Joined

variable {index : Nat} (h : Joining (addedNode env image index) site history (.ok tracked) left)
include h

/-- **A site that a node has joined** has grown by it. -/
theorem Joining.grown : Grown env image site [index] [tracked] left := by
  obtain ⟨hid, rfl⟩ := h.of_ok
  exact ⟨congrArg ([·]) hid, rfl, rfl⟩

/-- More nodes can join a site that a node has joined. -/
theorem Joining.running (hrunning : site.Running) (hnew : site.Lacks (addedNodeId index)) :
    left.Running := by
  obtain ⟨-, rfl⟩ := h.of_ok
  refine ⟨hrunning.consistent.extended hnew.objection?_eq_none, fun peer hpeer => ?_⟩
  show (site.fleet.insert tracked).contains peer.node = true
  rw [Fleet.contains_insert, hrunning.linked peer hpeer, Bool.true_or]

/-- The ids at other positions are as new as they were. -/
theorem Joining.lacks {other : Nat} (hne : index ≠ other)
    (hnew : site.Lacks (addedNodeId other)) : left.Lacks (addedNodeId other) := by
  obtain ⟨hid, rfl⟩ := h.of_ok
  have hother : (addedNodeId index == addedNodeId other) = false :=
    beq_eq_false_iff_ne.2 fun heq => hne (addedNodeId_injective heq)
  constructor
  · show (site.definition.extended (addedNode env image index)).contains _ = false
    rw [Definition.contains_extended, hnew.undefined, Bool.false_or]
    exact hother
  · show (site.fleet.insert tracked).contains _ = false
    rw [Fleet.contains_insert, hnew.untracked, Bool.false_or, hid]
    exact hother

end Joined

end Growing

/-! ## Several nodes -/

/-- **What can become of several nodes** that are added from a position on, one
after the other until one of them does not join. -/
inductive Adding (env : Environment) (image : Option String) : Nat → Nat → Site κ →
    List (NetworkEvent κ) → Outcome StakingError (List (TrackedNode κ)) → Site κ → Prop where
  | finished (index : Nat) (site : Site κ) : Adding env image index 0 site [] (.ok []) site
  | ended {index count : Nat} {site left : Site κ} {history : List (NetworkEvent κ)}
    {cause : Failure StakingError}
    (h : Joining (addedNode env image index) site history (.error cause) left) :
    Adding env image index (count + 1) site history (.error cause) left
  | joined {index count : Nat} {site between left : Site κ} {first rest : List (NetworkEvent κ)}
    {tracked : TrackedNode κ} {outcome : Outcome StakingError (List (TrackedNode κ))}
    (h : Joining (addedNode env image index) site first (.ok tracked) between)
    (others : Adding env image (index + 1) count between rest outcome left) :
    Adding env image index (count + 1) site (first ++ rest) (outcome.map (tracked :: ·)) left

section Adding

variable {index count : Nat} {history : List (NetworkEvent κ)}
  {outcome : Outcome StakingError (List (TrackedNode κ))}

/-- **What can become of added nodes.** -/
theorem adding_addNodesFrom
    (h : (addNodesFrom env image index count).Unfolds site history outcome left) :
    Adding env image index count site history outcome left := by
  induction count generalizing index site history outcome with
  | zero =>
    obtain ⟨rfl, rfl, rfl⟩ := Action.unfolds_pure.1 h
    exact .finished index _
  | succ count ih =>
    rcases Action.unfolds_bind.1 h with
      ⟨cause, hjoined, rfl⟩ | ⟨tracked, _, _, _, rfl, hjoined, hrest⟩
    · exact .ended (joining_addNode hjoined)
    · have hnode := joining_addNode hjoined
      rcases Action.unfolds_bind.1 hrest with
        ⟨cause, hfailed, rfl⟩ | ⟨others, _, _, _, rfl, hothers, hended⟩
      · exact .joined hnode (ih hfailed)
      · obtain ⟨rfl, rfl, rfl⟩ := Action.unfolds_pure.1 hended
        rw [List.append_nil]
        exact .joined hnode (ih hothers)

/-- The ids that are added later are new to a site that the first node has
joined. -/
theorem Joining.lacks_later {between : Site κ} {first : List (NetworkEvent κ)}
    {tracked : TrackedNode κ}
    (hnew : ∀ other ∈ List.range' index (count + 1), site.Lacks (addedNodeId other))
    (h : Joining (addedNode env image index) site first (.ok tracked) between) :
    ∀ other ∈ List.range' (index + 1) count, between.Lacks (addedNodeId other) := by
  intro other hmem
  obtain ⟨hlt, hle⟩ := List.mem_range'_1.1 hmem
  exact h.lacks (by omega) (hnew other (List.mem_range'_1.2 (by omega)))

/-- **How far nodes are added**: all of them join, or those before the one that
fails, or the wait for one crashes. -/
theorem Adding.grown (h : Adding env image index count site history outcome left)
    (hrunning : site.Running)
    (hnew : ∀ other ∈ List.range' index count, site.Lacks (addedNodeId other)) :
    (∃ nodes, outcome = .ok nodes
        ∧ Grown env image site (List.range' index count) nodes left)
      ∨ (∃ joined < count, ∃ nodes cause, outcome = Outcome.failed (.fleet cause)
        ∧ Grown env image site (List.range' index joined) nodes left)
      ∨ ∃ cause, outcome = Outcome.crashed cause := by
  induction h with
  | finished => exact Or.inl ⟨[], rfl, .refl _⟩
  | @ended index count site left history cause hjoining =>
    have hfirst := hnew index (List.mem_range'_1.2 (by omega))
    rcases hjoining.failure hfirst with ⟨cause, rfl⟩ | ⟨cause, rfl⟩
    · refine Or.inr (Or.inl ⟨0, Nat.succ_pos count, [], cause, rfl, ?_⟩)
      rw [hjoining.eq_of_failed hrunning hfirst]
      exact .refl site
    · exact Or.inr (Or.inr ⟨cause, rfl⟩)
  | @joined index count site between left first rest tracked outcome hjoining _ ih =>
    have hfirst := hnew index (List.mem_range'_1.2 (by omega))
    rcases ih (hjoining.running hrunning hfirst) (hjoining.lacks_later hnew) with
      ⟨nodes, rfl, hgrown⟩ | ⟨joined, hlt, nodes, cause, rfl, hgrown⟩ | ⟨cause, rfl⟩
    · exact Or.inl ⟨tracked :: nodes, rfl, hjoining.grown.trans hgrown⟩
    · refine Or.inr (Or.inl ⟨joined + 1, Nat.succ_lt_succ hlt, tracked :: nodes, cause, rfl, ?_⟩)
      exact hjoining.grown.trans hgrown
    · exact Or.inr (Or.inr ⟨cause, rfl⟩)

end Adding

/-! ## Once more -/

/-- **Nothing fails in a history**: services start, clients are bound, and every
node that is created becomes ready within a budget. -/
structure Untroubled [DecidableEq κ] (budget : PollBudget) (history : List (NetworkEvent κ)) :
    Prop where
  succeeds : ∀ event ∈ history, ¬ event.Fails
  ready : ∀ tracked after, CreatedIn history tracked after →
    ReadyWithin budget after tracked.client

section Untroubled

variable [DecidableEq κ] {history more : List (NetworkEvent κ)} {budget : PollBudget}

theorem Untroubled.right (h : Untroubled budget (more ++ history)) : Untroubled budget history :=
  ⟨fun event hmem => h.succeeds event (List.mem_append_right more hmem),
    fun tracked after hcreated => h.ready tracked after hcreated.append_left⟩

/-- A node that is defined is created and becomes ready if nothing fails. -/
theorem Making.exists_eq_ok {outcome : Outcome FleetError (TrackedNode κ)} {fleet : Fleet κ}
    (h : Making params site history outcome fleet) (hrunning : site.Running)
    (hnew : site.fleet.contains params.id = false)
    (huntroubled : Untroubled site.fleet.settings.startup (history ++ more)) :
    ∃ tracked, outcome = .ok tracked := by
  refine Fleet.Made.exists_eq_ok h ?_ hnew hrunning.linked ?_
  · exact fun event hmem => huntroubled.succeeds event (List.mem_append_left more hmem)
  · intro ip client said hcreated hawaited
    have hready := huntroubled.ready _ _ hcreated.append_right
    exact ⟨_, Fleet.Sequel.eq_ok_of_awaited hready (List.sublist_append_left _ more) hawaited⟩

/-- **A node joins if nothing fails** and its id is new. -/
theorem Joining.exists_eq_ok {index : Nat} {outcome : Outcome StakingError (TrackedNode κ)}
    (h : Joining (addedNode env image index) site history outcome left) (hrunning : site.Running)
    (hnew : site.Lacks (addedNodeId index))
    (huntroubled : Untroubled site.fleet.settings.startup (history ++ more)) :
    ∃ tracked, outcome = .ok tracked := by
  cases h with
  | refused hobjection =>
    rw [hnew.objection?_eq_none] at hobjection
    cases hobjection
  | joined => exact ⟨_, rfl⟩
  | crashed hmaking =>
    obtain ⟨_, hnever⟩ := hmaking.exists_eq_ok hrunning hnew.untracked huntroubled
    cases hnever
  | rolledBack hmaking =>
    rw [List.append_assoc] at huntroubled
    obtain ⟨_, hnever⟩ := hmaking.exists_eq_ok hrunning hnew.untracked huntroubled
    cases hnever

/-- **All nodes join if nothing fails** and their ids are new. -/
theorem Adding.exists_eq_ok {index count : Nat}
    {outcome : Outcome StakingError (List (TrackedNode κ))}
    (h : Adding env image index count site history outcome left) (hrunning : site.Running)
    (hnew : ∀ other ∈ List.range' index count, site.Lacks (addedNodeId other))
    (huntroubled : Untroubled site.fleet.settings.startup history) :
    ∃ nodes, outcome = .ok nodes := by
  induction h with
  | finished => exact ⟨[], rfl⟩
  | @ended index count site left history cause hjoining =>
    have hfirst := hnew index (List.mem_range'_1.2 (by omega))
    rw [← List.append_nil history] at huntroubled
    obtain ⟨_, hnever⟩ := hjoining.exists_eq_ok hrunning hfirst huntroubled
    cases hnever
  | @joined index count site between left first rest tracked outcome hjoining _ ih =>
    have hfirst := hnew index (List.mem_range'_1.2 (by omega))
    have hsettings : between.fleet.settings = site.fleet.settings := by
      rw [hjoining.grown.fleet]
    rw [← hsettings] at huntroubled
    obtain ⟨nodes, rfl⟩ :=
      ih (hjoining.running hrunning hfirst) (hjoining.lacks_later hnew) huntroubled.right
    exact ⟨tracked :: nodes, rfl⟩

end Untroubled

/-- **A call is refused where its first id is taken**, before anything is asked
of the network. -/
theorem runOn_addNodes_of_taken (deployment : Deployment κ σ) {count : Nat} (hcount : 0 < count)
    (htaken : site.definition.contains (addedNodeId 1) = true) (t : Timeline σ) :
    (addNodes env image count).runOn deployment.handler site t
      = ((Outcome.failed (.configuration (.duplicateNode (addedNodeId 1))), site), t) := by
  obtain ⟨count, rfl⟩ := Nat.exists_eq_succ_of_ne_zero (Nat.pos_iff_ne_zero.1 hcount)
  have hadd : site.definition.add (addedNode env image 1)
      = .error (.duplicateNode (addedNodeId 1)) := by
    unfold Definition.add
    rw [Definition.objection?_eq_duplicateNode (addedNodeId_ne_empty 1) htaken]
    rfl
  have hdefined : (define (addedNode env image 1)).runOn deployment.handler site t
      = ((Outcome.failed (.configuration (.duplicateNode (addedNodeId 1))), site), t) := by
    refine (Action.runOn_bind_ok Action.runOn_state).trans ?_
    rw [hadd]
    rfl
  exact Action.runOn_bind_error (Action.runOn_bind_error hdefined)

/-- **Whether adding nodes can be retried** depends on which of them failed. The
call has added those before it, and they stay. If there are none the site is
unchanged, and the same call adds all nodes on every deployment on which
nothing fails any more. If there are some, the same call is refused on every
deployment, whether or not anything would fail there. -/
theorem addNodes_retried [DecidableEq κ] (deployment : Deployment κ σ) (env : Environment)
    (image : Option String) (count : Nat) {site : Site κ} (hrunning : site.Running)
    (hnew : ∀ index ∈ List.range' 1 count, site.Lacks (addedNodeId index))
    {t ended : Timeline (σ × List (NetworkEvent κ))} {cause : FleetError} {left : Site κ}
    (hfailed : (addNodes env image count).runOn deployment.recorded.handler site t
      = ((Outcome.failed (.fleet cause), left), ended)) :
    ∃ joined < count, (∃ nodes, Grown env image site (List.range' 1 joined) nodes left)
      ∧ (joined = 0 → left = site ∧ ∀ (later : Deployment κ σ) t' history,
          ((addNodes env image count).runOn later.recorded.handler left t').2.world.2
              = t'.world.2 ++ history →
            Untroubled left.fleet.settings.startup history →
            ∃ nodes final ended, (addNodes env image count).runOn later.recorded.handler left t'
                = ((.ok nodes, final), ended)
              ∧ Grown env image site (List.range' 1 count) nodes final)
      ∧ (0 < joined → ∀ (later : Deployment κ σ) t',
          (addNodes env image count).runOn later.handler left t'
            = ((Outcome.failed (.configuration (.duplicateNode (addedNodeId 1))), left), t')) := by
  obtain ⟨_, -, hunfolds⟩ := Action.unfolds_runOn deployment (addNodes env image count) site t
  rw [hfailed] at hunfolds
  rcases (adding_addNodesFrom hunfolds).grown hrunning hnew with
    ⟨_, hnever, -⟩ | ⟨joined, hlt, nodes, _, -, hgrown⟩ | ⟨_, hnever⟩
  · cases hnever
  · refine ⟨joined, hlt, ⟨nodes, hgrown⟩, ?_, ?_⟩
    · rintro rfl
      obtain rfl := hgrown.eq_of_nil
      refine ⟨rfl, fun later t' history hrecord huntroubled => ?_⟩
      have hagain := Action.unfolds_of_record later hrecord
      generalize (addNodes env image count).runOn later.recorded.handler left t' = run at hagain ⊢
      obtain ⟨⟨outcome, final⟩, ended⟩ := run
      have hadding := adding_addNodesFrom hagain
      obtain ⟨nodes, rfl⟩ := hadding.exists_eq_ok hrunning hnew huntroubled
      rcases hadding.grown hrunning hnew with
        ⟨nodes, hok, hgrown⟩ | ⟨_, -, _, _, hnever, -⟩ | ⟨_, hnever⟩
      · obtain rfl := Except.ok.inj hok
        exact ⟨_, final, ended, rfl, hgrown⟩
      · cases hnever
      · cases hnever
    · intro hpos later t'
      refine runOn_addNodes_of_taken later (Nat.lt_of_le_of_lt (Nat.zero_le joined) hlt) ?_ t'
      exact hgrown.defines (List.mem_range'_1.2 (by omega))
  · cases hnever

/-! ## Two failures -/

/-- **A deployment on which no service starts.** -/
def refusing : Deployment Ip Nat :=
  { Fleet.obliging with start := fun _ started => (.error (.ofText "no room"), started) }

/-- A site with one bootstrap node that is running. -/
def single : Site Ip where
  definition := (⟨⟨"node", 1, 1, 1⟩, [], []⟩ : Definition).extended
    { NodeParams.plain .empty "b1" with role := .bootstrap 0 }
  fleet :=
    let ip : Ip := .v4 (.ofOctets 10 0 0 2)
    ⟨LocalNetwork.fleetSettings, [⟨"b1", ip, ip⟩]⟩

/-- Where no service can start the first node fails and the site stays as it is,
and where nobody is failed the same call then adds both nodes. -/
theorem addNodes_retried_obliging : ∃ cause ended nodes final after,
    (addNodes .empty none 2).runOn refusing.recorded.handler single ⟨⟨0⟩, ⟨0⟩, 0, []⟩
        = ((Outcome.failed (.fleet cause), single), ended)
      ∧ (addNodes .empty none 2).runOn Fleet.obliging.recorded.handler single ⟨⟨0⟩, ⟨0⟩, 0, []⟩
        = ((.ok nodes, final), after)
      ∧ nodes.map TrackedNode.id = ["new-node-1", "new-node-2"]
      ∧ Grown .empty none single [1, 2] nodes final := by
  have hrunning : single.Running := ⟨⟨by decide, by decide, by decide⟩, by decide⟩
  have hnew : ∀ index ∈ List.range' 1 2, single.Lacks (addedNodeId index) := by
    intro index hmem
    obtain ⟨hle, hlt⟩ := List.mem_range'_1.1 hmem
    obtain rfl | rfl : index = 1 ∨ index = 2 := by omega
    · exact ⟨by decide, by decide⟩
    · exact ⟨by decide, by decide⟩
  obtain ⟨ended, hfailed⟩ : ∃ ended,
      (addNodes .empty none 2).runOn refusing.recorded.handler single ⟨⟨0⟩, ⟨0⟩, 0, []⟩
        = ((Outcome.failed (.fleet (.start "new-node-1" (.ofText "no room"))), single), ended) :=
    ⟨_, rfl⟩
  obtain ⟨joined, -, ⟨_, hgrown⟩, hretried, -⟩ :=
    addNodes_retried refusing .empty none 2 hrunning hnew hfailed
  have hnone : joined = 0 := by
    have hlength := congrArg (fun d : Definition => d.nodes.length) hgrown.definition
    simpa using hlength
  have hkeeps := Fleet.obliging_keeps.runOn (addNodes .empty none 2) single ⟨⟨0⟩, ⟨0⟩, 0, []⟩
    fun _ hmem => absurd hmem List.not_mem_nil
  obtain ⟨nodes, final, after, hadded, hall⟩ := (hretried hnone).2 Fleet.obliging
    ⟨⟨0⟩, ⟨0⟩, 0, []⟩ _ (List.nil_append _).symm
    ⟨fun event hmem => (hkeeps event hmem).not_fails,
      fun tracked after hcreated => Fleet.readyWithin_of_granted (by decide) hkeeps hcreated⟩
  exact ⟨_, ended, nodes, final, after, hfailed, hadded, hall.ids.trans (by decide), hall⟩

end Site

/-- On a network in memory the second of two nodes is held back until it has been
stopped. The first one stays, and the same call is refused then. -/
theorem LocalNetwork.addNodes_not_retried :
    let member : NodeParams := { NodeParams.plain .empty "b1" with role := .bootstrap 0 }
    let d := (⟨⟨"node", 1, 1, 1⟩, [], []⟩ : Definition).extended member
    let started := (Fleet.create d ⟨member, []⟩).runOn LocalNetwork.deployment.handler
      (Fleet.empty LocalNetwork.fleetSettings)
      ⟨⟨0⟩, ⟨0⟩, LocalNetwork.ofGenesis ⟨[], ⟨"", ""⟩⟩ 0⟩
    let site : Site LocalClient := ⟨d, started.1.2⟩
    let added := (Site.addNodes .empty none 2).runOn LocalNetwork.deployment.handler site
      { started.2 with world := started.2.world.holdBack "new-node-2" }
    let released := added.2.world.release "new-node-2"
    site.Running ∧ site.Lacks "new-node-1" ∧ site.Lacks "new-node-2"
      ∧ (∃ cause, added.1.1 = Outcome.failed (.fleet (.readiness "new-node-2" cause)))
      ∧ released.stopped = ["new-node-2"] ∧ released.heldBack = []
      ∧ ((Site.addNodes .empty none 2).runOn LocalNetwork.deployment.handler added.1.2
          { added.2 with world := released }).1.1
        = Outcome.failed (.configuration (.duplicateNode "new-node-1")) := by
  refine ⟨⟨⟨by decide, by decide, by decide⟩, by decide +kernel⟩, ⟨rfl, rfl⟩, ⟨rfl, rfl⟩,
    ⟨_, rfl⟩, ?_, ?_, ?_⟩
  · rfl
  · rfl
  · rfl

end LedgerNet
