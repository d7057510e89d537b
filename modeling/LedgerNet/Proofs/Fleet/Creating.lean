import LedgerNet.Fleet
import LedgerNet.Proofs.Fleet.Waiting
import LedgerNet.Proofs.Program.History

/-!
# What can become of a creation

Creating a node asks for a service and a client, and waiting for it asks the
node. Everything that this can lead to is in one relation, `Made`: the node
is not created, for one of four reasons that leave the fleet as it was, or it
is created, which is two events and one entry of the fleet, and what follows
is between the fleet and the node. Several nodes are created one after the
other until one of them fails (`InTurn`), and a network starts with two such
rows and a wait for all nodes of the first one in between (`Starting`).

Later modules read all that they say about a fleet off these relations, and
none of them looks into the programs again.
-/

namespace LedgerNet

namespace Fleet

variable {κ : Type} {fleet : Fleet κ} {id : String} {tracked : TrackedNode κ}

/-! ## Who is tracked -/

theorem contains_iff : fleet.contains id = true ↔ ∃ node ∈ fleet.nodes, node.id = id := by
  simp [contains, node?]

theorem contains_eq_false_iff : fleet.contains id = false ↔ ∀ node ∈ fleet.nodes, node.id ≠ id := by
  rw [← Bool.not_eq_true, contains_iff]
  simp

theorem contains_insert :
    (fleet.insert tracked).contains id = (fleet.contains id || tracked.id == id) := by
  rw [Bool.eq_iff_iff, Bool.or_eq_true, contains_iff, contains_iff]
  simp [insert, or_and_right, exists_or]

theorem contains_erase (other : String) :
    (fleet.erase id).contains other = (fleet.contains other && other != id) := by
  rw [Bool.eq_iff_iff, Bool.and_eq_true, contains_iff, contains_iff]
  simp only [erase, List.mem_filter, bne_iff_ne]
  constructor
  · rintro ⟨node, ⟨hmem, hne⟩, rfl⟩
    exact ⟨⟨node, hmem, rfl⟩, hne⟩
  · rintro ⟨⟨node, hmem, rfl⟩, hne⟩
    exact ⟨node, ⟨hmem, hne⟩, rfl⟩

/-- A node that has just been entered is found. -/
theorem tracked_insert (h : fleet.contains tracked.id = false) :
    (fleet.insert tracked).tracked tracked.id = .ok tracked := by
  have hnone : fleet.nodes.find? (·.id == tracked.id) = none := by
    rw [List.find?_eq_none]
    intro node hmem
    rw [beq_iff_eq]
    exact contains_eq_false_iff.1 h node hmem
  unfold Fleet.tracked node? insert
  rw [List.find?_append, hnone]
  simp

/-- What is not there need not be taken out. -/
theorem erase_eq_self (h : fleet.contains id = false) : fleet.erase id = fleet := by
  have hkept : fleet.nodes.filter (·.id != id) = fleet.nodes :=
    List.filter_eq_self.2 fun node hmem => bne_iff_ne.2 (contains_eq_false_iff.1 h node hmem)
  unfold erase
  rw [hkept]

/-- Entering a node and taking it out again changes nothing. -/
theorem erase_insert (h : fleet.contains tracked.id = false) :
    (fleet.insert tracked).erase tracked.id = fleet := by
  have hleft : (fleet.insert tracked).erase tracked.id = fleet.erase tracked.id := by
    unfold erase insert
    simp
  rw [hleft, erase_eq_self h]

/-- **A peer is reached** at the address of the node that runs under its
id. -/
def Reaches (fleet : Fleet κ) (peer : Peer) (ip : Ip) : Prop :=
  ∃ node ∈ fleet.nodes, node.id = peer.node ∧ node.ip = ip

/-- The addresses of some peers are found if all of them are running. -/
theorem mapM_tracked_spec (fleet : Fleet κ) (peers : List Peer) :
    (∃ peer ∈ peers, fleet.contains peer.node = false
        ∧ peers.mapM (fun peer => TrackedNode.ip <$> fleet.tracked peer.node)
          = .error (.notFound peer.node))
      ∨ ∃ ips, peers.mapM (fun peer => TrackedNode.ip <$> fleet.tracked peer.node) = .ok ips
        ∧ List.Forall₂ fleet.Reaches peers ips := by
  induction peers with
  | nil => exact Or.inr ⟨[], rfl, .nil⟩
  | cons peer rest ih =>
    rw [List.mapM_cons]
    cases hfound : fleet.node? peer.node with
    | none =>
      refine Or.inl ⟨peer, List.mem_cons_self, ?_, ?_⟩
      · unfold contains
        rw [hfound]
        rfl
      · unfold Fleet.tracked
        rw [hfound]
        rfl
    | some node =>
      have htracked : fleet.tracked peer.node = .ok node := by
        unfold Fleet.tracked
        rw [hfound]
      rw [htracked]
      rcases ih with ⟨missing, hmem, hcontains, hrest⟩ | ⟨ips, hrest, hreaches⟩
      · refine Or.inl ⟨missing, List.mem_cons_of_mem _ hmem, hcontains, ?_⟩
        rw [hrest]
        rfl
      · refine Or.inr ⟨node.ip :: ips, ?_, .cons ⟨node, ?_, ?_, rfl⟩ hreaches⟩
        · rw [hrest]
          rfl
        · exact List.mem_of_find?_eq_some hfound
        · simpa using List.find?_some hfound

/-! ## One node -/

section Creating

variable {β : Type} {d : Definition} {node : NodeConfig} {left : Fleet κ}
  {history : List (NetworkEvent κ)}

/-- **How a node comes not to be created**, and why. The fleet stays as it is,
and a service that was started is stopped again, which may fail. -/
inductive Unmade (d : Definition) (node : NodeConfig) (fleet : Fleet κ) :
    List (NetworkEvent κ) → FleetError → Prop where
  /-- A node is running under its id. -/
  | taken (h : fleet.contains node.id = true) :
    Unmade d node fleet [] (.configuration (.duplicateNode node.id))
  /-- A node that it depends on is not running. -/
  | unlinked (new : fleet.contains node.id = false) (peer : Peer) (hpeer : peer ∈ node.dependsOn)
    (h : fleet.contains peer.node = false) :
    Unmade d node fleet [] (.notFound peer.node)
  | notStarted (new : fleet.contains node.id = false) (ips : List Ip)
    (links : List.Forall₂ fleet.Reaches node.dependsOn ips) (cause : ServiceError) :
    Unmade d node fleet [.start (serviceOf d node ips) (.error cause)] (.start node.id cause)
  | notBound (new : fleet.contains node.id = false) (ips : List Ip)
    (links : List.Forall₂ fleet.Reaches node.dependsOn ips) (ip : Ip) (cause : ApiError)
    (reply : Except ServiceError Unit) :
    Unmade d node fleet [.start (serviceOf d node ips) (.ok ip), .connect ip (.error cause),
      .stop node.id fleet.settings.grace reply] (.client node.id cause)

/-- **What is between the fleet and a node** once the node is created: what is
said, and what comes of it. -/
abbrev Sequel (κ β : Type) :=
  TrackedNode κ → List (Exchange (Clients κ)) → Outcome FleetError β → Prop

/-- **What can become of a node**: it is not created, or it is, and then there
is a sequel. -/
inductive Made (d : Definition) (sequel : Sequel κ β) (node : NodeConfig) (fleet : Fleet κ) :
    List (NetworkEvent κ) → Outcome FleetError β → Fleet κ → Prop where
  | unmade {history : List (NetworkEvent κ)} {cause : FleetError}
    (h : Unmade d node fleet history cause) :
    Made d sequel node fleet history (Outcome.failed cause) fleet
  | made (new : fleet.contains node.id = false) (ips : List Ip)
    (links : List.Forall₂ fleet.Reaches node.dependsOn ips) (ip : Ip) (client : κ)
    {said : List (Exchange (Clients κ))} {outcome : Outcome FleetError β}
    (follows : sequel ⟨node.id, ip, client⟩ said outcome) :
    Made d sequel node fleet
      (.start (serviceOf d node ips) (.ok ip) :: .connect ip (.ok client) :: said.map .query)
      outcome (fleet.insert ⟨node.id, ip, client⟩)

/-- **A node that is created** is two events, an entry of the fleet and a
sequel. -/
theorem Made.of_ok {sequel : Sequel κ β} {value : β}
    (h : Made d sequel node fleet history (.ok value) left) :
    ∃ ips ip client said, fleet.contains node.id = false
      ∧ List.Forall₂ fleet.Reaches node.dependsOn ips
      ∧ history = .start (serviceOf d node ips) (.ok ip) :: .connect ip (.ok client)
        :: said.map .query
      ∧ left = fleet.insert ⟨node.id, ip, client⟩
      ∧ sequel ⟨node.id, ip, client⟩ said (.ok value) := by
  cases h with
  | made new ips links ip client follows =>
    exact ⟨ips, ip, client, _, new, links, rfl, rfl, follows⟩

/-- Nothing follows yet. -/
def Sequel.unchecked : Sequel κ (Checker κ) := fun tracked said outcome =>
  said = [] ∧ outcome = .ok (Checker.ofNode tracked.id tracked.client)

/-- **The node is waited for.** -/
def Sequel.awaited (attempts : Nat) : Sequel κ (TrackedNode κ) := fun tracked said outcome =>
  ∃ ended, Checker.Waited tracked.client attempts said ended
    ∧ outcome = (ended.mapError (Failure.map (.readiness tracked.id))).map fun _ => tracked

/-- A client is bound to a service that has started, or the service is asked
to stop. -/
theorem unfolds_bindClient {id : String} {ip : Ip} {outcome : Outcome FleetError κ}
    (h : (bind id ip).Unfolds fleet history outcome left) :
    (∃ client, history = [.connect ip (.ok client)] ∧ outcome = .ok client ∧ left = fleet)
      ∨ ∃ cause reply, history = [.connect ip (.error cause), .stop id fleet.settings.grace reply]
        ∧ outcome = Outcome.failed (.client id cause) ∧ left = fleet := by
  obtain ⟨reply, _, rest, rfl, rfl, hbound⟩ := Action.unfolds_request_bind h
  cases reply with
  | ok client =>
    obtain ⟨rfl, rfl, rfl⟩ := Action.unfolds_pure.1 hbound
    exact Or.inl ⟨client, rfl, rfl, rfl⟩
  | error cause =>
    obtain ⟨stopped, _, _, rfl, rfl, hstopped⟩ :=
      Action.unfolds_request_bind (Action.unfolds_state_bind.1 hbound)
    obtain ⟨rfl, rfl, rfl⟩ := Action.unfolds_fail.1 hstopped
    exact Or.inr ⟨cause, stopped, rfl, rfl, rfl⟩

/-- **What can become of a node that is not waited for.** -/
theorem made_createUnchecked {outcome : Outcome FleetError (Checker κ)}
    (h : (createUnchecked d node).Unfolds fleet history outcome left) :
    Made d .unchecked node fleet history outcome left := by
  unfold createUnchecked at h
  rw [Action.unfolds_state_bind] at h
  split at h
  · rename_i htaken
    obtain ⟨rfl, rfl, rfl⟩ := Action.unfolds_fail.1 h
    exact .unmade (.taken htaken)
  · rename_i htaken
    have hnew : fleet.contains node.id = false := Bool.eq_false_iff.2 htaken
    rcases Action.unfolds_ofExcept_bind.1 h with ⟨cause, hlinks, rfl, rfl, rfl⟩ | ⟨ips, hlinks, h⟩
    · rcases mapM_tracked_spec left node.dependsOn with
        ⟨peer, hpeer, hmissing, hfailed⟩ | ⟨_, hok, -⟩
      · rw [hfailed] at hlinks
        rw [← Except.error.inj hlinks]
        exact .unmade (.unlinked hnew peer hpeer hmissing)
      · rw [hok] at hlinks
        cases hlinks
    · have hreaches : List.Forall₂ fleet.Reaches node.dependsOn ips := by
        rcases mapM_tracked_spec fleet node.dependsOn with ⟨_, -, -, hfailed⟩ | ⟨_, hok, hreaches⟩
        · rw [hfailed] at hlinks
          cases hlinks
        · rw [hok] at hlinks
          rwa [← Except.ok.inj hlinks]
      obtain ⟨reply, _, after, rfl, rfl, hstarted⟩ := Action.unfolds_request_bind h
      cases reply with
      | error cause =>
        obtain ⟨rfl, rfl, rfl⟩ := Action.unfolds_fail.1 hstarted
        exact .unmade (.notStarted hnew ips hreaches cause)
      | ok ip =>
        rcases Action.unfolds_bind.1 hstarted with
          ⟨cause, hbind, rfl⟩ | ⟨client, _, bound, rest, rfl, hbind, hentered⟩
        · rcases unfolds_bindClient hbind with
            ⟨client, -, hnever, -⟩ | ⟨cause, stopped, rfl, hcause, rfl⟩
          · exact absurd hnever nofun
          · obtain rfl := Except.error.inj hcause
            exact .unmade (.notBound hnew ips hreaches ip cause stopped)
        · rcases unfolds_bindClient hbind with ⟨_, rfl, hclient, rfl⟩ | ⟨_, _, -, hnever, -⟩
          · obtain rfl := Except.ok.inj hclient
            rw [Action.unfolds_change_bind] at hentered
            obtain ⟨rfl, rfl, rfl⟩ := Action.unfolds_pure.1 hentered
            have hnothing : Sequel.unchecked ⟨node.id, ip, client⟩ []
                (.ok (Checker.ofNode node.id client)) := ⟨rfl, rfl⟩
            exact .made hnew ips hreaches ip client hnothing
          · exact absurd hnever nofun

/-- **What can become of a node that is waited for.** -/
theorem made_create {outcome : Outcome FleetError (TrackedNode κ)}
    (h : (create d node).Unfolds fleet history outcome left) :
    Made d (.awaited fleet.settings.startup.maxAttempts.toNat) node fleet history outcome left := by
  unfold create at h
  rcases Action.unfolds_bind.1 h with
    ⟨cause, hmade, rfl⟩ | ⟨checker, _, _, after, rfl, hmade, hwait⟩
  · cases made_createUnchecked hmade with
    | unmade hunmade => exact .unmade hunmade
    | made _ _ _ _ _ follows => cases follows.2
  · generalize hok : (Except.ok checker : Outcome FleetError (Checker κ)) = ended at hmade
    cases made_createUnchecked hmade with
    | unmade _ => cases hok
    | made new ips links ip client follows =>
      obtain ⟨rfl, rfl⟩ := follows
      obtain rfl := Except.ok.inj hok
      rw [Action.unfolds_state_bind] at hwait
      rcases Action.unfolds_bind.1 hwait with
        ⟨cause, hsaid, rfl⟩ | ⟨_, _, _, rest, rfl, hsaid, hready⟩
      · obtain ⟨rfl, log, rfl, htalk⟩ := Action.unfolds_lift_timed hsaid
        obtain ⟨failure, htalk, hfailure⟩ := Attempt.talk_wrap.1 htalk
        refine .made new ips links ip client ⟨failure, Checker.talk_awaitReady htalk, ?_⟩
        rw [← hfailure]
        rfl
      · obtain ⟨rfl, log, rfl, htalk⟩ := Action.unfolds_lift_timed hsaid
        obtain ⟨ended, htalk, hended⟩ := Attempt.talk_wrap.1 htalk
        rw [Action.unfolds_state_bind, tracked_insert new] at hready
        obtain ⟨rfl, rfl, rfl⟩ := Action.unfolds_pure.1 hready
        rw [List.append_nil]
        refine .made new ips links ip client ⟨ended, Checker.talk_awaitReady htalk, ?_⟩
        rw [← hended]
        rfl

/-- The settings of a fleet do not change by a creation. -/
theorem Made.settings_eq {sequel : Sequel κ β} {outcome : Outcome FleetError β}
    (h : Made d sequel node fleet history outcome left) : left.settings = fleet.settings := by
  cases h with
  | unmade _ => rfl
  | made => rfl

/-- **What can become of a removal**: a node that is tracked leaves the fleet,
and its service is asked to stop. -/
theorem unfolds_remove {id : String} {outcome : Outcome FleetError Unit}
    (h : (remove id).Unfolds fleet history outcome left) :
    (fleet.contains id = false ∧ history = [] ∧ left = fleet)
      ∨ fleet.contains id = true ∧ left = fleet.erase id
        ∧ ∃ reply, history = [.stop id fleet.settings.grace reply] := by
  unfold remove at h
  rw [Action.unfolds_state_bind] at h
  split at h
  · rename_i hid
    rw [Action.unfolds_change_bind] at h
    obtain ⟨reply, _, rest, rfl, rfl, hended⟩ := Action.unfolds_request_bind h
    cases reply with
    | ok value =>
      obtain ⟨rfl, -, rfl⟩ := Action.unfolds_pure.1 hended
      exact Or.inr ⟨hid, rfl, _, rfl⟩
    | error cause =>
      obtain ⟨rfl, -, rfl⟩ := Action.unfolds_fail.1 hended
      exact Or.inr ⟨hid, rfl, _, rfl⟩
  · rename_i hid
    obtain ⟨rfl, -, rfl⟩ := Action.unfolds_fail.1 h
    exact Or.inl ⟨Bool.eq_false_iff.2 hid, rfl, rfl⟩

/-! ## Several nodes -/

/-- **What can become of several nodes**, one after the other until one of them
fails. -/
inductive InTurn (d : Definition) (sequel : Sequel κ β) : List NodeConfig → Fleet κ →
    List (NetworkEvent κ) → Outcome FleetError (List β) → Fleet κ → Prop where
  | finished (fleet : Fleet κ) : InTurn d sequel [] fleet [] (.ok []) fleet
  | failed {node : NodeConfig} {nodes : List NodeConfig} {fleet left : Fleet κ}
    {history : List (NetworkEvent κ)} {cause : Failure FleetError}
    (h : Made d sequel node fleet history (.error cause) left) :
    InTurn d sequel (node :: nodes) fleet history (.error cause) left
  | passed {node : NodeConfig} {nodes : List NodeConfig} {fleet between left : Fleet κ}
    {first rest : List (NetworkEvent κ)} {value : β} {outcome : Outcome FleetError (List β)}
    (h : Made d sequel node fleet first (.ok value) between)
    (others : InTurn d sequel nodes between rest outcome left) :
    InTurn d sequel (node :: nodes) fleet (first ++ rest) (outcome.map (value :: ·)) left

variable {nodes : List NodeConfig} {sequel : Sequel κ β}

/-- **If all goes well** with some nodes, it does with the first one and with
the others. -/
theorem InTurn.of_cons_ok {values : List β}
    (h : InTurn d sequel (node :: nodes) fleet history (.ok values) left) :
    ∃ value others between first rest, values = value :: others ∧ history = first ++ rest
      ∧ Made d sequel node fleet first (.ok value) between
      ∧ InTurn d sequel nodes between rest (.ok others) left := by
  generalize hended : (Except.ok values : Outcome FleetError _) = outcome at h
  cases h with
  | failed _ => cases hended
  | @passed _ _ _ between _ first rest value outcome hmade others =>
    cases outcome with
    | error cause => cases hended
    | ok more =>
      obtain rfl := Except.ok.inj hended
      exact ⟨value, more, between, first, rest, rfl, rfl, hmade, others⟩

/-- The settings of a fleet do not change by creations. -/
theorem InTurn.settings_eq {outcome : Outcome FleetError (List β)}
    (h : InTurn d sequel nodes fleet history outcome left) : left.settings = fleet.settings := by
  induction h with
  | finished => rfl
  | failed hmade => exact hmade.settings_eq
  | passed hmade _ ih => rw [ih, hmade.settings_eq]

/-- **What can become of the nodes of the first wave.** -/
theorem inTurn_createUnchecked {outcome : Outcome FleetError (List (Checker κ))}
    (h : (nodes.mapM (createUnchecked d)).Unfolds fleet history outcome left) :
    InTurn d .unchecked nodes fleet history outcome left := by
  induction nodes generalizing fleet history outcome with
  | nil =>
    obtain ⟨rfl, rfl, rfl⟩ := Action.unfolds_pure.1 h
    exact .finished _
  | cons node rest ih =>
    rw [List.mapM_cons] at h
    rcases Action.unfolds_bind.1 h with
      ⟨cause, hmade, rfl⟩ | ⟨checker, _, _, after, rfl, hmade, hrest⟩
    · exact .failed (made_createUnchecked hmade)
    · have hpassed := made_createUnchecked hmade
      rcases Action.unfolds_bind.1 hrest with
        ⟨cause, hfailed, rfl⟩ | ⟨checkers, _, _, _, rfl, hothers, hended⟩
      · exact .passed hpassed (ih hfailed)
      · obtain ⟨rfl, rfl, rfl⟩ := Action.unfolds_pure.1 hended
        rw [List.append_nil]
        exact .passed hpassed (ih hothers)

/-- **What can become of nodes that are waited for** one by one. -/
theorem inTurn_create {outcome : Outcome FleetError Unit}
    (h : Action.Unfolds (nodes.forM fun node => do let _ ← create d node) fleet history outcome
      left) :
    ∃ ended, InTurn d (.awaited fleet.settings.startup.maxAttempts.toNat) nodes fleet history ended
        left ∧ outcome = ended.map fun _ => () := by
  induction nodes generalizing fleet history with
  | nil =>
    obtain ⟨rfl, rfl, rfl⟩ := Action.unfolds_pure.1 h
    exact ⟨_, .finished _, rfl⟩
  | cons node rest ih =>
    rw [List.forM_eq_forM, List.forM_cons, ← List.forM_eq_forM] at h
    rcases Action.unfolds_bind.1 h with
      ⟨cause, hdone, rfl⟩ | ⟨_, between, first, after, rfl, hdone, hrest⟩
    · obtain ⟨ended, hmade, hended⟩ := Action.unfolds_discard hdone
      cases ended with
      | ok tracked => cases hended
      | error failure =>
        obtain rfl := Except.error.inj hended
        exact ⟨_, .failed (made_create hmade), rfl⟩
    · obtain ⟨ended, hmade, hended⟩ := Action.unfolds_discard hdone
      cases ended with
      | error failure => cases hended
      | ok tracked =>
        have hpassed := made_create hmade
        obtain ⟨others, hothers, rfl⟩ := ih hrest
        rw [hpassed.settings_eq] at hothers
        refine ⟨_, .passed hpassed hothers, ?_⟩
        cases others <;> rfl

end Creating

end Fleet

end LedgerNet
