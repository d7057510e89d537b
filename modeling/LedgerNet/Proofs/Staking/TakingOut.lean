import LedgerNet.Proofs.Staking.Retrying

/-!
# Whom adding nodes takes out

A node that does not make it is taken out again: it is no longer defined, it
leaves the fleet, and its service is asked to stop. That is right for a node
that the call has created. But the fleet also refuses a node because one is
running under its id, and that one was there before the call. It is taken out
all the same.

What becomes of a node that was running before a call is therefore one of two
things. It stays, and nobody asks its service to stop (`Kept`). Or it is lost
(`Lost`), and then the call has ended with the complaint that its id is taken.
This cannot happen to a node that is defined, since the definition refuses its
id first, and then nothing is taken out.
-/

namespace LedgerNet

variable {κ σ : Type}

/-- **A service is asked to stop** in an event. -/
def NetworkEvent.Stops (id : String) : NetworkEvent κ → Prop
  | stop other _ _ => other = id
  | _ => False

namespace Site

variable {site between left : Site κ} {env : Environment} {image : Option String}
  {params : NodeParams} {tracked : TrackedNode κ} {history first rest : List (NetworkEvent κ)}

/-! ## What becomes of a running node -/

/-- **A running node stays**, and its service is not asked to stop. -/
structure Kept (tracked : TrackedNode κ) (history : List (NetworkEvent κ)) (left : Site κ) :
    Prop where
  running : tracked ∈ left.fleet.nodes
  spared : ∀ event ∈ history, ¬ event.Stops tracked.id

/-- **A running node is lost.** It was not defined, the call ended because its
id was taken, and its service was asked to stop. -/
structure Lost {α : Type} (site : Site κ) (tracked : TrackedNode κ)
    (history : List (NetworkEvent κ)) (outcome : Outcome StakingError α) (left : Site κ) :
    Prop where
  undefined : site.definition.contains tracked.id = false
  refused : outcome = Outcome.failed (.fleet (.configuration (.duplicateNode tracked.id)))
  untracked : left.fleet.contains tracked.id = false
  stopped : ∃ reply, .stop tracked.id site.fleet.settings.grace reply ∈ history

theorem Kept.append (h : Kept tracked first between) (hrest : Kept tracked rest left) :
    Kept tracked (first ++ rest) left where
  running := hrest.running
  spared event hmem := by
    rcases List.mem_append.1 hmem with hmem | hmem
    · exact h.spared event hmem
    · exact hrest.spared event hmem

/-! ## One node -/

/-- **Creating a node stops no service but its own.** -/
theorem Making.spares {outcome : Outcome FleetError (TrackedNode κ)} {fleet : Fleet κ} {id : String}
    (h : Making params site history outcome fleet) (hne : id ≠ params.id) :
    ∀ event ∈ history, ¬ event.Stops id := by
  cases h with
  | unmade hunmade =>
    cases hunmade with
    | taken => exact fun _ hmem => absurd hmem List.not_mem_nil
    | unlinked => exact fun _ hmem => absurd hmem List.not_mem_nil
    | notStarted => simp [NetworkEvent.Stops]
    | notBound =>
      have hown : ¬ (⟨params, site.definition.chain⟩ : NodeConfig).id = id :=
        fun heq => hne heq.symm
      simpa [NetworkEvent.Stops] using hown
  | made => simp [NetworkEvent.Stops]

/-- **A node that was running is running** after another one was created, or
was not. -/
theorem Making.running {outcome : Outcome FleetError (TrackedNode κ)} {fleet : Fleet κ}
    (h : Making params site history outcome fleet) (hmem : tracked ∈ site.fleet.nodes) :
    tracked ∈ fleet.nodes := by
  cases h with
  | unmade => exact hmem
  | made => exact List.mem_append_left _ hmem

/-- **A node whose id is taken is not created**, and nothing is asked of the
network. -/
theorem Making.of_taken {outcome : Outcome FleetError (TrackedNode κ)} {fleet : Fleet κ}
    (h : Making params site history outcome fleet)
    (htaken : site.fleet.contains params.id = true) :
    history = [] ∧ outcome = Outcome.failed (.configuration (.duplicateNode params.id))
      ∧ fleet = site.fleet := by
  have hnot : site.fleet.contains params.id ≠ false := by
    rw [htaken]
    exact Bool.noConfusion
  cases h with
  | unmade hunmade =>
    cases hunmade with
    | taken => exact ⟨rfl, rfl, rfl⟩
    | unlinked hnew => exact absurd hnew hnot
    | notStarted hnew => exact absurd hnew hnot
    | notBound hnew => exact absurd hnew hnot
  | made hnew => exact absurd hnew hnot

/-- What happens when a node is taken out happens to its own service. -/
theorem TakenOut.spares {fleet : Fleet κ} {id other : String} (h : TakenOut fleet id history)
    (hne : other ≠ id) : ∀ event ∈ history, ¬ event.Stops other := by
  cases h with
  | gone => exact fun _ hmem => absurd hmem List.not_mem_nil
  | stopped _ reply =>
    intro event hmem
    rw [List.mem_singleton.1 hmem]
    exact fun heq => hne heq.symm

/-- **Taking out another node** keeps one that is running. -/
theorem Making.kept_of_ne {outcome : Outcome FleetError (TrackedNode κ)} {fleet : Fleet κ}
    {definition : Definition} (h : Making params site history outcome fleet)
    (hout : TakenOut fleet params.id rest) (hmem : tracked ∈ site.fleet.nodes)
    (hne : tracked.id ≠ params.id) :
    Kept tracked (history ++ rest) ⟨definition, fleet.erase params.id⟩ where
  running := List.mem_filter.2 ⟨h.running hmem, bne_iff_ne.2 hne⟩
  spared event hevent := by
    rcases List.mem_append.1 hevent with hevent | hevent
    · exact h.spares hne event hevent
    · exact hout.spares hne event hevent

/-- **What becomes of a running node when another one is added.** -/
theorem Joining.keeps {outcome : Outcome StakingError (TrackedNode κ)}
    (h : Joining params site history outcome left) (hmem : tracked ∈ site.fleet.nodes) :
    Kept tracked history left
      ∨ tracked.id = params.id ∧ Lost site tracked history outcome left := by
  have htracked : site.fleet.contains tracked.id = true :=
    Fleet.contains_iff.2 ⟨tracked, hmem, rfl⟩
  -- an id that is taken is refused by the fleet, so who joins has another one
  have hother : ∀ {events : List (NetworkEvent κ)} {ended : Outcome FleetError (TrackedNode κ)}
      {fleet : Fleet κ}, Making params site events ended fleet →
      (∀ cause, ended ≠ Outcome.failed cause) → tracked.id ≠ params.id :=
    fun hmaking hended heq => hended _ (hmaking.of_taken (heq ▸ htracked)).2.1
  cases h with
  | refused => exact Or.inl ⟨hmem, fun _ hnever => absurd hnever List.not_mem_nil⟩
  | joined hmaking =>
    have hne := hother hmaking (Outcome.ok_ne_failed _)
    exact Or.inl ⟨hmaking.running hmem, hmaking.spares hne⟩
  | crashed hmaking =>
    have hne := hother hmaking fun _ => by simp [Outcome.crashed, Outcome.failed]
    exact Or.inl ⟨hmaking.running hmem, hmaking.spares hne⟩
  | rolledBack hmaking hout haccepted =>
    by_cases htaken : tracked.id = params.id
    · rw [htaken] at htracked
      obtain ⟨rfl, hcause, rfl⟩ := hmaking.of_taken htracked
      obtain rfl := Failure.error.inj (Except.error.inj hcause)
      refine Or.inr ⟨htaken, ?_⟩
      cases hout with
      | gone hgone =>
        rw [htracked] at hgone
        cases hgone
      | stopped _ reply =>
        refine ⟨?_, ?_, ?_, reply, ?_⟩
        · rw [htaken]
          exact (Definition.fresh_of_accepted haccepted).2
        · rw [htaken]
        · rw [htaken]
          exact (Fleet.contains_erase _).trans (by simp)
        · rw [htaken]
          exact List.mem_singleton_self _
    · exact Or.inl (hmaking.kept_of_ne hout hmem htaken)

/-! ## Several nodes -/

/-- What is lost after a node has joined is lost of the site that it joined. -/
theorem Joining.lost {index : Nat} {joined : TrackedNode κ} {α β : Type}
    {outcome : Outcome StakingError α} (f : α → β)
    (h : Joining (addedNode env image index) site first (.ok joined) between)
    (hlost : Lost between tracked rest outcome left) :
    Lost site tracked (first ++ rest) (outcome.map f) left := by
  obtain ⟨hundefined, rfl, huntracked, reply, hstopped⟩ := hlost
  obtain ⟨-, rfl⟩ := h.of_ok
  rw [Definition.contains_extended, Bool.or_eq_false_iff] at hundefined
  exact ⟨hundefined.1, rfl, huntracked, reply, List.mem_append_right _ hstopped⟩

/-- **What becomes of a running node when others are added.** If it is lost, it
was running under one of their ids. -/
theorem Adding.keeps {index count : Nat} {outcome : Outcome StakingError (List (TrackedNode κ))}
    (h : Adding env image index count site history outcome left)
    (hmem : tracked ∈ site.fleet.nodes) :
    Kept tracked history left
      ∨ (∃ taken ∈ List.range' index count, tracked.id = addedNodeId taken)
        ∧ Lost site tracked history outcome left := by
  induction h with
  | finished => exact Or.inl ⟨hmem, fun _ hnever => absurd hnever List.not_mem_nil⟩
  | @ended index count _ _ _ _ hjoining =>
    refine (hjoining.keeps hmem).imp_right fun ⟨hid, hlost⟩ => ?_
    refine ⟨⟨index, List.mem_range'_1.2 (by omega), hid⟩, ?_⟩
    obtain ⟨hundefined, hrefused, huntracked, hstopped⟩ := hlost
    obtain rfl := Except.error.inj hrefused
    exact ⟨hundefined, rfl, huntracked, hstopped⟩
  | @joined index count _ _ _ _ _ _ _ hjoining _ ih =>
    rcases hjoining.keeps hmem with hkept | ⟨-, hlost⟩
    · rcases ih hkept.running with hlater | ⟨⟨taken, htaken, hid⟩, hlost⟩
      · exact Or.inl (hkept.append hlater)
      · obtain ⟨hlt, hle⟩ := List.mem_range'_1.1 htaken
        refine Or.inr ⟨⟨taken, List.mem_range'_1.2 (by omega), hid⟩, ?_⟩
        exact hjoining.lost _ hlost
    · exact absurd hlost.refused (Outcome.ok_ne_failed _ _)

/-- **Adding nodes keeps those that are running**, on every deployment and
however the call ends: they are still in the fleet, and nobody has asked their
services to stop. There is one exception. A node that is not defined and runs
under one of the ids that are added is lost, if the call gets that far, and the
call ends by saying that this id is taken. -/
theorem addNodes_keeps (deployment : Deployment κ σ) (env : Environment) (image : Option String)
    (count : Nat) (site : Site κ) (t : Timeline (σ × List (NetworkEvent κ))) :
    ∃ outcome left ended history,
      (addNodes env image count).runOn deployment.recorded.handler site t
        = ((outcome, left), ended)
      ∧ ended.world.2 = t.world.2 ++ history
      ∧ ∀ tracked ∈ site.fleet.nodes, Kept tracked history left
        ∨ (∃ index ∈ List.range' 1 count, tracked.id = addedNodeId index)
          ∧ Lost site tracked history outcome left := by
  obtain ⟨history, hrecord, hunfolds⟩ :=
    Action.unfolds_runOn deployment (addNodes env image count) site t
  exact ⟨_, _, _, history, rfl, hrecord, fun _ hmem => (adding_addNodesFrom hunfolds).keeps hmem⟩

end Site

/-- On a network in memory a node runs that is not defined. Adding a node under
its id is refused, and the one that was running is stopped. -/
theorem LocalNetwork.addNodes_stops_running :
    let member : NodeParams := .plain .empty "new-node-1"
    let d : Definition := ⟨⟨"node", 1, 1, 1⟩, [], []⟩
    let started := (Fleet.create (d.extended member) ⟨member, []⟩).runOn
      LocalNetwork.deployment.handler (Fleet.empty LocalNetwork.fleetSettings)
      ⟨⟨0⟩, ⟨0⟩, LocalNetwork.ofGenesis ⟨[], ⟨"", ""⟩⟩ 0⟩
    let site : Site LocalClient := ⟨d, started.1.2⟩
    let added := (Site.addNodes .empty none 1).runOn LocalNetwork.deployment.handler site started.2
    site.fleet.contains "new-node-1" = true ∧ started.2.world.stopped = []
      ∧ added.1.1 = Outcome.failed (.fleet (.configuration (.duplicateNode "new-node-1")))
      ∧ added.1.2.fleet.contains "new-node-1" = false
      ∧ added.2.world.stopped = ["new-node-1"] :=
  ⟨rfl, rfl, rfl, rfl, rfl⟩

end LedgerNet
