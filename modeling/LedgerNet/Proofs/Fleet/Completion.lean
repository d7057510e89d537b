import LedgerNet.Proofs.Definition.Preset
import LedgerNet.Proofs.Fleet.Waves
import LedgerNet.Proofs.Program.Invariants

/-!
# A start in which nothing fails

A network whose services start, whose clients can be bound and whose nodes
catch up in time comes to run as a whole. The only other thing that could go
wrong is a lookup: a node could depend on one that is not running yet. In a
definition from which only regular nodes were removed every node depends on
bootstrap nodes that come before it in the order of the starts, so each
lookup finds what it looks for, and what it finds is the address at which the
service of that very node was started (`wired_serviceOf`).

What it means that nothing fails is `Smooth`. It is a condition on what the
deployment answers and says nothing about how the start ends.
-/

namespace LedgerNet

variable {κ σ : Type}

/-! ## Nothing fails -/

/-- **A node refuses here**: it is asked whether it has caught up on a lane and
does not say yes. -/
def NetworkEvent.refusedBy [DecidableEq κ] (client : κ) : NetworkEvent κ → Bool
  | query exchange => decide (exchange.question.1 = client) && exchange.isRefusal
  | _ => false

/-- **A node becomes ready within a budget**: it refuses less often than the
budget has attempts, and does not break down. -/
structure ReadyWithin [DecidableEq κ] (budget : PollBudget) (history : List (NetworkEvent κ))
    (client : κ) : Prop where
  refusals : history.countP (NetworkEvent.refusedBy client) < budget.maxAttempts.toNat
  unbroken : ∀ exchange, .query exchange ∈ history → exchange.question.1 = client →
    exchange.isBreakdown = false

/-- **Nothing fails in a history**: services start, clients are bound, and
every node becomes ready within the budget that its wave has. -/
structure Smooth [DecidableEq κ] (d : Definition) (settings : FleetSettings)
    (history : List (NetworkEvent κ)) : Prop where
  succeeds : ∀ event ∈ history, ¬ event.Fails
  bootstrap : ∀ node ∈ d.bootstrapNodes, ∀ ip client after,
    CreatedIn history ⟨node.id, ip, client⟩ after →
      ReadyWithin settings.bootstrapWave after client
  regular : ∀ node ∈ d.regularNodes, ∀ ip client after,
    CreatedIn history ⟨node.id, ip, client⟩ after → ReadyWithin settings.startup after client

section Waits

variable [DecidableEq κ] {budget : PollBudget} {history : List (NetworkEvent κ)}
  {checker : Checker κ} {log : List (Exchange (Clients κ))} {ended : Outcome ReadinessError Unit}

/-- All refusals of a conversation with a node are its own. -/
theorem Checker.Asks.countP_refusedBy {client : κ} (h : Asks client log) :
    (log.map NetworkEvent.query).countP (NetworkEvent.refusedBy client)
      = log.countP Exchange.isRefusal := by
  rw [List.countP_map]
  refine List.countP_congr fun exchange hmem => ?_
  obtain ⟨lane, hquestion⟩ := h exchange hmem
  simp [NetworkEvent.refusedBy, hquestion]

/-- **A wait ends well** for a node that becomes ready within its budget. -/
theorem ReadyWithin.ended_eq_ok (h : ReadyWithin budget history checker.client)
    (hlog : (log.map NetworkEvent.query).Sublist history)
    (hwaited : Fleet.WaitedAmong budget.maxAttempts.toNat log checker ended) :
    ended = .ok () := by
  obtain ⟨own, rest, hsaid, hwaited⟩ := hwaited
  cases hwaited with
  | ready => rfl
  | exhausted cause asks refusals =>
    have hcount : own.countP Exchange.isRefusal
        ≤ history.countP (NetworkEvent.refusedBy checker.client) :=
      calc own.countP Exchange.isRefusal
          = (own.map NetworkEvent.query).countP (NetworkEvent.refusedBy checker.client) :=
            asks.countP_refusedBy.symm
        _ ≤ ((own ++ rest).map NetworkEvent.query).countP
              (NetworkEvent.refusedBy checker.client) := by
            rw [List.map_append, List.countP_append]
            exact Nat.le_add_right _ _
        _ = (log.map NetworkEvent.query).countP (NetworkEvent.refusedBy checker.client) :=
            ((hsaid.map _).countP_eq _).symm
        _ ≤ history.countP (NetworkEvent.refusedBy checker.client) := hlog.countP_le
    exact absurd h.refusals (Nat.not_lt.2 (refusals ▸ hcount))
  | broken cause asks breakdown =>
    obtain ⟨exchange, hmem, hbroken⟩ := breakdown
    obtain ⟨lane, hquestion⟩ := asks exchange hmem
    have hsame : exchange.question.1 = checker.client := by rw [hquestion]
    have hlogged : exchange ∈ log := hsaid.mem_iff.2 (List.mem_append_left rest hmem)
    have hnot := h.unbroken exchange (hlog.subset (List.mem_map_of_mem hlogged)) hsame
    rw [hnot] at hbroken
    cases hbroken

end Waits

/-- **A command passes arguments on**: they are the last arguments of a node,
which are the command itself or stand in a script for a shell. -/
def Launch.Passes (command last : List String) : Prop :=
  ∃ arguments, last <:+ arguments
    ∧ (command = arguments ∨ ∃ config, command = ["/bin/sh", "-c", script config arguments])

/-- **A start command ends with whom to bootstrap from.** -/
theorem Launch.passes_render (launch : Launch) (ip : Ip) (mounts : Mounts) :
    Passes (launch.render ip mounts) ["--bootstrap-ids=" ++ launch.bootstrapIds,
      "--bootstrap-ips=" ++ ipList launch.bootstrapIps] := by
  refine ⟨launch.arguments ip mounts, List.suffix_append _ _, ?_⟩
  unfold render
  cases mounts.path? Conventions.contractConfigFile with
  | some config => exact Or.inr ⟨config, rfl⟩
  | none => exact Or.inl rfl

namespace Fleet

variable {β : Type} {d : Definition} {nodes : List NodeConfig} {fleet left : Fleet κ}
  {sequel : Sequel κ β} {history : List (NetworkEvent κ)}

/-! ## Rows that go well -/

/-- **A creation goes well** if no start and no client fails, if the id is new,
if what the node depends on is running, and if whatever follows ends well. -/
theorem Made.exists_eq_ok {node : NodeConfig} {outcome : Outcome FleetError β}
    (h : Made d sequel node fleet history outcome left)
    (hsucceeds : ∀ event ∈ history, ¬ event.Fails) (hnew : fleet.contains node.id = false)
    (hlinks : ∀ peer ∈ node.dependsOn, fleet.contains peer.node = true)
    (hfollows : ∀ ip client said, CreatedIn history ⟨node.id, ip, client⟩ (said.map .query) →
      sequel ⟨node.id, ip, client⟩ said outcome → ∃ value, outcome = .ok value) :
    ∃ value, outcome = .ok value := by
  cases h with
  | unmade hunmade =>
    exfalso
    cases hunmade with
    | taken htaken =>
      rw [hnew] at htaken
      cases htaken
    | unlinked _ peer hpeer hmissing =>
      rw [hlinks peer hpeer] at hmissing
      cases hmissing
    | notStarted => exact hsucceeds _ List.mem_cons_self trivial
    | notBound => exact hsucceeds _ (List.mem_cons_of_mem _ List.mem_cons_self) trivial
  | made _ _ _ ip client follows => exact hfollows ip client _ ⟨[], _, rfl, rfl⟩ follows

/-- **A node that becomes ready within its budget** is waited for with success. -/
theorem Sequel.eq_ok_of_awaited [DecidableEq κ] {budget : PollBudget} {tracked : TrackedNode κ}
    {said : List (Exchange (Clients κ))} {outcome : Outcome FleetError (TrackedNode κ)}
    (hready : ReadyWithin budget history tracked.client)
    (hsaid : (said.map NetworkEvent.query).Sublist history)
    (h : Sequel.awaited budget.maxAttempts.toNat tracked said outcome) :
    outcome = .ok tracked := by
  obtain ⟨ended, hwaited, rfl⟩ := h
  have hamong : WaitedAmong budget.maxAttempts.toNat said
      (Checker.ofNode tracked.id tracked.client) ended :=
    ⟨said, [], by rw [List.append_nil], hwaited⟩
  rw [hready.ended_eq_ok hsaid hamong]
  rfl

/-- **A row of nodes goes well** if no start and no client fails, if every id
is new, if what a node depends on is running or comes before it, and if
whatever follows a creation ends well. -/
theorem InTurn.exists_eq_ok {outcome : Outcome FleetError (List β)}
    (h : InTurn d sequel nodes fleet history outcome left)
    (hsucceeds : ∀ event ∈ history, ¬ event.Fails)
    (hnew : ∀ node ∈ nodes, fleet.contains node.id = false)
    (hnodup : (nodes.map NodeConfig.id).Nodup)
    (hlinks : ∀ before node after, nodes = before ++ node :: after → ∀ peer ∈ node.dependsOn,
      fleet.contains peer.node = true ∨ ∃ other ∈ before, other.id = peer.node)
    (hfollows : ∀ node ∈ nodes, ∀ ip client after said ended,
      CreatedIn history ⟨node.id, ip, client⟩ after → (said.map NetworkEvent.query).Sublist after →
      sequel ⟨node.id, ip, client⟩ said ended → ∃ value, ended = .ok value) :
    ∃ values, outcome = .ok values := by
  induction h with
  | finished => exact ⟨[], rfl⟩
  | @failed node rest fleet _ history cause hmade =>
    have hlinked : ∀ peer ∈ node.dependsOn, fleet.contains peer.node = true := fun peer hpeer =>
      (hlinks [] node rest rfl peer hpeer).resolve_right fun ⟨_, hnever, _⟩ => by cases hnever
    obtain ⟨_, hnever⟩ := hmade.exists_eq_ok hsucceeds (hnew node List.mem_cons_self) hlinked
      fun ip client said hcreated hfollowed => hfollows node List.mem_cons_self ip client _ said _
        hcreated (List.Sublist.refl _) hfollowed
    cases hnever
  | @passed node rest fleet between _ first later value outcome hmade _ ih =>
    obtain ⟨hnotLater, hnodupRest⟩ := List.nodup_cons.1 hnodup
    have hnewRest : ∀ other ∈ rest, between.contains other.id = false := by
      intro other hmem
      rw [hmade.contains_of_ok, hnew other (List.mem_cons_of_mem _ hmem), Bool.false_or,
        beq_eq_false_iff_ne]
      exact fun heq => hnotLater (heq ▸ List.mem_map_of_mem hmem)
    have hlinksRest : ∀ before other after, rest = before ++ other :: after →
        ∀ peer ∈ other.dependsOn,
          between.contains peer.node = true ∨ ∃ earlier ∈ before, earlier.id = peer.node := by
      intro before other after hsplit peer hpeer
      rw [hmade.contains_of_ok, Bool.or_eq_true, beq_iff_eq]
      rcases hlinks (node :: before) other after (by rw [hsplit]; rfl) peer hpeer with
        hfound | ⟨earlier, hmem, heq⟩
      · exact Or.inl (Or.inl hfound)
      · rcases List.mem_cons.1 hmem with rfl | hmem
        · exact Or.inl (Or.inr heq)
        · exact Or.inr ⟨earlier, hmem, heq⟩
    obtain ⟨values, rfl⟩ := ih (fun event hmem => hsucceeds event (List.mem_append_right _ hmem))
      hnewRest hnodupRest hlinksRest fun other hmem ip client after said ended hcreated =>
        hfollows other (List.mem_cons_of_mem _ hmem) ip client after said ended
          hcreated.append_left
    exact ⟨value :: values, rfl⟩

/-- **What is in the fleet after a row** was in it before, or was created in the
row. -/
theorem InTurn.mem_nodes_of_ok {values : List β}
    (h : InTurn d sequel nodes fleet history (.ok values) left) :
    ∀ tracked ∈ left.nodes, tracked ∈ fleet.nodes ∨ ∃ after, CreatedIn history tracked after := by
  induction nodes generalizing fleet history values with
  | nil =>
    cases h
    exact fun tracked => Or.inl
  | cons node rest ih =>
    obtain ⟨_, _, _, _, _, rfl, rfl, hmade, hothers⟩ := h.of_cons_ok
    obtain ⟨_, ip, client, _, -, -, rfl, rfl, -⟩ := hmade.of_ok
    intro tracked hmem
    rcases ih hothers tracked hmem with hbetween | ⟨after, hcreated⟩
    · rcases List.mem_append.1 hbetween with hbefore | hnew
      · exact Or.inl hbefore
      · rw [List.mem_singleton.1 hnew]
        exact Or.inr ⟨_, CreatedIn.append_right ⟨[], _, rfl, rfl⟩⟩
    · exact Or.inr ⟨after, hcreated.append_left⟩

/-- The ids of a fleet after a row are those before and those of the row. -/
theorem InTurn.map_id_of_ok {values : List β}
    (h : InTurn d sequel nodes fleet history (.ok values) left) :
    left.nodes.map TrackedNode.id
      = fleet.nodes.map TrackedNode.id ++ nodes.map NodeConfig.id := by
  induction nodes generalizing fleet history values with
  | nil =>
    cases h
    exact (List.append_nil _).symm
  | cons node rest ih =>
    obtain ⟨_, _, _, _, _, rfl, rfl, hmade, hothers⟩ := h.of_cons_ok
    obtain ⟨_, _, _, _, -, -, -, rfl, -⟩ := hmade.of_ok
    rw [ih hothers]
    simp [insert]

/-- Who is tracked, by the ids of the fleet. -/
theorem contains_iff_mem {id : String} :
    fleet.contains id = true ↔ id ∈ fleet.nodes.map TrackedNode.id := by
  rw [contains_iff, List.mem_map]

/-- **The wave goes well** if all nodes become ready within its budget. -/
theorem Wave.eq_ok_of_ready [DecidableEq κ] {checkers : List (Checker κ)}
    {log : List (Exchange (Clients κ))} {outcome : Outcome FleetError Unit} {budget : PollBudget}
    (h : InTurn d .unchecked nodes fleet history (.ok checkers) left)
    (hwave : Wave budget.maxAttempts.toNat checkers log outcome)
    (hready : ∀ node ∈ nodes, ∀ ip client after,
      CreatedIn (history ++ log.map .query) ⟨node.id, ip, client⟩ after →
        ReadyWithin budget after client) : outcome = .ok () := by
  cases hwave with
  | ready => rfl
  | unready hmem failed cause =>
    obtain ⟨node, hnode, ip, after, hcreated⟩ := exists_mem_of_forall₂ h.bound.flip _ hmem
    have hwithin := hready node hnode ip _ _ hcreated.append_right
    cases hwithin.ended_eq_ok (List.sublist_append_right _ _) failed

/-! ## The whole start -/

section Intact

variable (hintact : d.Intact) (hnew : ∀ node ∈ d.nodes, fleet.contains node.id = false)
include hintact hnew

/-- **The bootstrap nodes are created** if nothing fails. -/
theorem InTurn.bootstrap_eq_ok {outcome : Outcome FleetError (List (Checker κ))}
    (h : InTurn d .unchecked d.bootstrapNodes fleet history outcome left)
    (hsucceeds : ∀ event ∈ history, ¬ event.Fails) : ∃ checkers, outcome = .ok checkers := by
  have hnodup := (hintact.perm_nodes.map NodeConfig.id).nodup_iff.2 hintact.consistent.nodup
  rw [List.map_append] at hnodup
  refine h.exists_eq_ok hsucceeds ?_ (List.nodup_append.1 hnodup).1 ?_ ?_
  · exact fun node hmem => hnew node (hintact.perm_nodes.mem_iff.1 (List.mem_append_left _ hmem))
  · intro before node after hsplit peer hpeer
    obtain ⟨other, hmem, rfl⟩ := @Definition.Intact.exists_before_of_dependsOn _ hintact before
      (after ++ d.regularNodes) node (by simp [hsplit]) peer hpeer
    exact Or.inr ⟨other, hmem, rfl⟩
  · rintro node - ip client after said ended - - ⟨-, rfl⟩
    exact ⟨_, rfl⟩

/-- **The regular nodes are created and become ready** where the bootstrap
nodes are running, if nothing fails. -/
theorem InTurn.regular_eq_ok [DecidableEq κ] {first : List (NetworkEvent κ)} {between : Fleet κ}
    {checkers : List (Checker κ)} {budget : PollBudget}
    {outcome : Outcome FleetError (List (TrackedNode κ))}
    (hfirst : InTurn d .unchecked d.bootstrapNodes fleet first (.ok checkers) between)
    (h : InTurn d (.awaited budget.maxAttempts.toNat) d.regularNodes between history outcome left)
    (hsucceeds : ∀ event ∈ history, ¬ event.Fails)
    (hready : ∀ node ∈ d.regularNodes, ∀ ip client after,
      CreatedIn history ⟨node.id, ip, client⟩ after → ReadyWithin budget after client) :
    ∃ values, outcome = .ok values := by
  have hnodup := (hintact.perm_nodes.map NodeConfig.id).nodup_iff.2 hintact.consistent.nodup
  rw [List.map_append] at hnodup
  obtain ⟨-, hnodupRest, hapart⟩ := List.nodup_append.1 hnodup
  refine h.exists_eq_ok hsucceeds ?_ hnodupRest ?_ ?_
  · intro node hmem
    rw [← Bool.not_eq_true, contains_iff_mem, hfirst.map_id_of_ok, List.mem_append]
    rintro (hknown | hbootstrap)
    · rw [← contains_iff_mem,
        hnew node (hintact.perm_nodes.mem_iff.1 (List.mem_append_right _ hmem))] at hknown
      cases hknown
    · exact hapart _ hbootstrap _ (List.mem_map_of_mem hmem) rfl
  · intro before node after hsplit peer hpeer
    obtain ⟨other, hmem, rfl⟩ := @Definition.Intact.exists_before_of_dependsOn _ hintact
      (d.bootstrapNodes ++ before) after node (by simp [hsplit]) peer hpeer
    rcases List.mem_append.1 hmem with hmem | hmem
    · refine Or.inl (contains_iff_mem.2 ?_)
      rw [hfirst.map_id_of_ok]
      exact List.mem_append_right _ (List.mem_map_of_mem hmem)
    · exact Or.inr ⟨other, hmem, rfl⟩
  · intro node hmem ip client after said ended hcreated hsaid hfollows
    exact ⟨_, Sequel.eq_ok_of_awaited (hready node hmem ip client after hcreated) hsaid hfollows⟩

/-- **All of a network comes to run** if nothing fails: both of its rows go well,
and so does the wave between them. -/
theorem Starting.rows_of_smooth [DecidableEq κ] {outcome : Outcome FleetError Unit}
    (h : Starting d fleet history outcome left) (hsmooth : Smooth d fleet.settings history) :
    outcome = .ok () ∧ ∃ first rest checkers between tracked,
      ∃ log : List (Exchange (Clients κ)), history = first ++ (log.map .query ++ rest)
        ∧ InTurn d .unchecked d.bootstrapNodes fleet first (.ok checkers) between
        ∧ InTurn d (.awaited fleet.settings.startup.maxAttempts.toNat) d.regularNodes between rest
          (.ok tracked) left := by
  obtain ⟨hsucceeds, hbootstrap, hregular⟩ := hsmooth
  cases h with
  | uncreated row =>
    obtain ⟨_, hnever⟩ := row.bootstrap_eq_ok hintact hnew hsucceeds
    cases hnever
  | unready row wave => cases wave.eq_ok_of_ready row hbootstrap
  | @waved first rest checkers between _ row log wave outcome others =>
    have hrest : ∀ event ∈ rest, ¬ event.Fails := fun event hmem =>
      hsucceeds event (List.mem_append_right _ (List.mem_append_right _ hmem))
    obtain ⟨tracked, rfl⟩ := row.regular_eq_ok hintact hnew others hrest
      fun node hmem ip client after hcreated =>
        hregular node hmem ip client after hcreated.append_left.append_left
    exact ⟨rfl, first, rest, checkers, between, tracked, log, rfl, row, others⟩

end Intact

/-! ## Wiring -/

/-- **A service is wired**: it is that of a node, and whatever its own address
and its mounts are, its command names the identities of the nodes that it
depends on and, in the same order, the addresses at which the services of
these very nodes have started before. -/
def Wired (d : Definition) (before : List (NetworkEvent κ)) (spec : ServiceSpec) : Prop :=
  ∃ node ∈ d.nodes, ∃ ips, spec.id = node.id
    ∧ List.Forall₂ (fun peer ip => (∃ other ∈ d.bootstrapNodes, other.asPeer = peer)
        ∧ ∃ started : ServiceSpec, started.id = peer.node ∧ .start started (.ok ip) ∈ before)
      node.dependsOn ips
    ∧ ∀ own mounts, Launch.Passes (spec.command own mounts)
        ["--bootstrap-ids=" ++ String.intercalate "," (node.dependsOn.map Peer.identity),
          "--bootstrap-ips=" ++ String.intercalate ","
            (ips.map fun ip => ip.text ++ ":" ++ toString Conventions.stakingPort)]

/-- **A network has started as a whole.** -/
structure Complete (d : Definition) (fleet : Fleet κ) (history : List (NetworkEvent κ))
    (left : Fleet κ) : Prop where
  /-- The bootstrap chain starts first, and then the regular nodes. -/
  order : startedIds history = d.chain.map Peer.node ++ d.regularNodes.map NodeConfig.id
  /-- No node starts twice, and every node that is defined starts. -/
  once : (startedIds history).Nodup
  all : (startedIds history).Perm (d.nodes.map NodeConfig.id)
  tracks : left.nodes.map TrackedNode.id = fleet.nodes.map TrackedNode.id ++ startedIds history
  wired : ∀ before spec reply after, history = before ++ .start spec reply :: after →
    Wired d before spec

section Intact

variable (hintact : d.Intact) (hnew : ∀ node ∈ d.nodes, fleet.contains node.id = false)
include hintact hnew

/-- **What a node depends on is reached where it started**, if what the fleet
tracks by then was there before or was created. -/
theorem wired_serviceOf {node : NodeConfig} (hmem : node ∈ d.nodes) {between : Fleet κ}
    {ips : List Ip} (hlinks : List.Forall₂ between.Reaches node.dependsOn ips)
    (htracked : ∀ tracked ∈ between.nodes,
      tracked ∈ fleet.nodes ∨ ∃ after, CreatedIn history tracked after) :
    Wired d history (serviceOf d node ips) := by
  refine ⟨node, hmem, ips, rfl, ?_, fun own mounts => Launch.passes_render _ own mounts⟩
  rw [List.forall₂_iff_zip]
  refine ⟨hlinks.length_eq, fun {peer ip} hpair => ?_⟩
  obtain ⟨tracked, hfound, hid, rfl⟩ := List.forall₂_zip hlinks hpair
  obtain ⟨other, hother, rfl⟩ :=
    hintact.exists_bootstrapNode_of_dependsOn hmem (List.of_mem_zip hpair).1
  refine ⟨⟨other, hother, rfl⟩, ?_⟩
  rcases htracked tracked hfound with hbefore | ⟨after, front, spec, hspec, rfl⟩
  · -- the fleet tracked none of the nodes that are defined
    have hdefined := hintact.perm_nodes.mem_iff.1 (List.mem_append_left _ hother)
    exact absurd hid (contains_eq_false_iff.1 (hnew other hdefined) tracked hbefore)
  · exact ⟨spec, hspec.trans hid, by simp⟩

/-- **Two rows that go well** are a whole start. -/
theorem complete_of_rows {attempts : Nat} {first rest : List (NetworkEvent κ)}
    {between : Fleet κ} {checkers : List (Checker κ)} {tracked : List (TrackedNode κ)}
    (log : List (Exchange (Clients κ)))
    (hrow : InTurn d .unchecked d.bootstrapNodes fleet first (.ok checkers) between)
    (hothers : InTurn d (.awaited attempts) d.regularNodes between rest (.ok tracked) left) :
    Complete d fleet (first ++ (log.map .query ++ rest)) left := by
  have hstarted : startedIds (first ++ (log.map .query ++ rest))
      = (d.bootstrapNodes ++ d.regularNodes).map NodeConfig.id := by
    rw [startedIds_append, startedIds_append, startedIds_map_query, hrow.startedIds_of_ok,
      hothers.startedIds_of_ok, List.map_append, List.nil_append]
  have hperm := hintact.perm_nodes.map NodeConfig.id
  refine ⟨?_, ?_, ?_, ?_, ?_⟩
  · rw [hstarted, List.map_append, hintact.bootstrapNodes_eq, hintact.consistent.chain_eq,
      List.map_map]
    rfl
  · rw [hstarted]
    exact hperm.nodup_iff.2 hintact.consistent.nodup
  · rw [hstarted]
    exact hperm
  · rw [hothers.map_id_of_ok, hrow.map_id_of_ok, hstarted, List.map_append, List.append_assoc]
  · intro before spec reply after hsplit
    rcases split_append hsplit with ⟨_, hfirst, -⟩ | ⟨front, rfl, hlater⟩
    · obtain ⟨passed, node, skipped, _, reached, ips, hnodes, hpassed, -, hlinks, rfl⟩ :=
        hrow.split_start hfirst
      have hmem : node ∈ d.bootstrapNodes := by simp [hnodes]
      have hmem := hintact.perm_nodes.mem_iff.1 (List.mem_append_left _ hmem)
      exact wired_serviceOf hintact hnew hmem hlinks hpassed.mem_nodes_of_ok
    rcases split_append hlater with ⟨_, hlog, -⟩ | ⟨front, rfl, hrest⟩
    · obtain ⟨_, hnever⟩ := eq_query_of_split hlog
      cases hnever
    obtain ⟨passed, node, skipped, _, reached, ips, hnodes, hpassed, -, hlinks, rfl⟩ :=
      hothers.split_start hrest
    have hmem : node ∈ d.regularNodes := by simp [hnodes]
    have hmem := hintact.perm_nodes.mem_iff.1 (List.mem_append_right _ hmem)
    refine wired_serviceOf hintact hnew hmem hlinks fun tracked hfound => ?_
    rcases hpassed.mem_nodes_of_ok tracked hfound with hearlier | ⟨later, hcreated⟩
    · exact (hrow.mem_nodes_of_ok tracked hearlier).imp_right fun ⟨later, hcreated⟩ =>
        ⟨_, hcreated.append_right⟩
    · exact Or.inr ⟨later, hcreated.append_left.append_left⟩

end Intact

/-- **A network starts as a whole** if nothing fails. Its definition was built
from nothing by adding nodes of either kind in any order, and by removing
regular nodes, and none of its nodes is running yet. -/
theorem startNetwork_complete [DecidableEq κ] (deployment : Deployment κ σ)
    {params : NetworkParams} {empty : Definition} (hempty : Definition.ofParams params = .ok empty)
    (edits : List Edit) (hspare : empty.SpareChain edits) (fleet : Fleet κ)
    (hnew : ∀ node ∈ (empty.editedAll edits).nodes, fleet.contains node.id = false)
    (t : Timeline (σ × List (NetworkEvent κ))) {history : List (NetworkEvent κ)}
    (hrecord : ((startNetwork (empty.editedAll edits)).runOn deployment.recorded.handler fleet
      t).2.world.2 = t.world.2 ++ history)
    (hsmooth : Smooth (empty.editedAll edits) fleet.settings history) :
    ((startNetwork (empty.editedAll edits)).runOn deployment.recorded.handler fleet t).1.1 = .ok ()
      ∧ Complete (empty.editedAll edits) fleet history
        ((startNetwork (empty.editedAll edits)).runOn deployment.recorded.handler fleet t).1.2 := by
  have hintact := (Definition.Intact.ofParams hempty).editedAll hspare
  generalize empty.editedAll edits = d at hnew hrecord hsmooth hintact ⊢
  have hunfolds := Action.unfolds_of_record deployment hrecord
  obtain ⟨hok, first, rest, checkers, between, tracked, log, rfl, hrow, hothers⟩ :=
    (starting_startNetwork hunfolds).rows_of_smooth hintact hnew hsmooth
  exact ⟨hok, complete_of_rows hintact hnew log hrow hothers⟩

/-! ## A deployment that fails nobody -/

/-- **A deployment that fails nobody**: addresses are counted, clients are
addresses, and every node has caught up. -/
def obliging : Deployment Ip Nat where
  answer := fun (_, call) started => (match call with
    | .isBootstrapped _ => .ok true
    | _ => Outcome.failed (.unsupported "call"), started)
  start _ started := (.ok (.v4 (.ofOctets 10 0 0 (started + 2))), started + 1)
  stop _ _ started := (.ok (), started)
  connect ip started := (.ok ip, started)

/-- Nobody is failed in an event. -/
def Granted : NetworkEvent Ip → Prop
  | .query exchange => exchange.isRefusal = false ∧ exchange.isBreakdown = false
  | event => ¬ event.Fails

/-- Nobody is failed in anything that is on record. -/
theorem obliging_keeps :
    obliging.recorded.Keeps fun memory => ∀ event ∈ memory.2, Granted event := by
  have hadded : ∀ {history : List (NetworkEvent Ip)} {event : NetworkEvent Ip},
      Granted event → (∀ event ∈ history, Granted event) →
        ∀ other ∈ history ++ [event], Granted other := by
    intro history event hevent hhistory
    refine List.forall_mem_append.2 ⟨hhistory, fun other hmem => ?_⟩
    rwa [List.mem_singleton.1 hmem]
  refine Deployment.keeps_recorded (fun _ history => ∀ event ∈ history, Granted event) ?_ ?_ ?_ ?_
  · rintro ⟨client, call⟩ started history
    refine hadded ?_
    cases call <;> exact ⟨rfl, rfl⟩
  · exact fun spec started history => hadded id
  · exact fun stopped grace started history => hadded id
  · exact fun ip started history => hadded id

/-- What grants a request does not fail. -/
theorem Granted.not_fails {event : NetworkEvent Ip} (h : Granted event) : ¬ event.Fails := by
  cases event with
  | query => exact id
  | start | stop | connect => exact h

/-- If nobody is failed a node becomes ready within every budget that has an
attempt. -/
theorem readyWithin_of_granted {budget : PollBudget} {history after : List (NetworkEvent Ip)}
    {tracked : TrackedNode Ip} (hattempts : 0 < budget.maxAttempts.toNat)
    (h : ∀ event ∈ history, Granted event) (hcreated : CreatedIn history tracked after) :
    ReadyWithin budget after tracked.client := by
  obtain ⟨before, spec, -, rfl⟩ := hcreated
  have hlater : ∀ event ∈ after, Granted event := fun event hmem => h event (by simp [hmem])
  have hnone : after.countP (NetworkEvent.refusedBy tracked.client) = 0 := by
    refine List.countP_eq_zero.2 fun event hmem => ?_
    cases event with
    | query exchange => simp [NetworkEvent.refusedBy, (hlater _ hmem).1]
    | start | stop | connect => exact Bool.false_ne_true
  exact ⟨hnone ▸ hattempts, fun exchange hmem _ => (hlater _ hmem).2⟩

/-- **If nobody is failed nothing fails**, as long as the budgets have an
attempt. -/
theorem smooth_of_granted {settings : FleetSettings} {history : List (NetworkEvent Ip)}
    (hwave : 0 < settings.bootstrapWave.maxAttempts.toNat)
    (hstartup : 0 < settings.startup.maxAttempts.toNat)
    (h : ∀ event ∈ history, Granted event) : Smooth d settings history where
  succeeds event hmem := (h event hmem).not_fails
  bootstrap _ _ _ _ _ hcreated := readyWithin_of_granted hwave h hcreated
  regular _ _ _ _ _ hcreated := readyWithin_of_granted hstartup h hcreated

/-- A network from which a regular node was removed starts as a whole where nobody is failed: the
chain first, and then the regular node that is left. -/
theorem startNetwork_complete_obliging :
    let member (id : String) : NodeParams :=
      { NodeParams.plain .empty id with role := .bootstrap 0 }
    let edits : List Edit := [.add (member "b1"), .add (.plain .empty "r1"), .add (member "b2"),
      .remove "r1", .add (.plain .empty "r2")]
    let empty : Definition := ⟨⟨"node", 1, 1, 1⟩, [], []⟩
    let fleet : Fleet Ip := Fleet.empty ⟨⟨⟨1⟩, 3⟩, ⟨⟨1⟩, 3⟩, ⟨1⟩⟩
    ∃ left ended, (startNetwork (empty.editedAll edits)).runOn obliging.recorded.handler fleet
        ⟨⟨0⟩, ⟨0⟩, 0, []⟩ = ((.ok (), left), ended)
      ∧ startedIds ended.world.2 = ["b1", "b2", "r2"]
      ∧ left.nodes.map TrackedNode.id = ["b1", "b2", "r2"]
      ∧ Complete (empty.editedAll edits) fleet ended.world.2 left := by
  intro member edits empty fleet
  have hempty : Definition.ofParams ⟨"node", 1, 1, 1⟩ = .ok empty := by decide
  have hspare : empty.SpareChain edits := by
    rintro before id after hsplit
    rcases before with _ | ⟨_, _ | ⟨_, _ | ⟨_, _ | ⟨_, _ | _⟩⟩⟩⟩ <;>
      simp [edits, member, NodeParams.plain] at hsplit
    obtain ⟨rfl, rfl, rfl, rfl, -⟩ := hsplit
    decide
  have hkeeps := obliging_keeps.runOn (startNetwork (empty.editedAll edits)) fleet
    ⟨⟨0⟩, ⟨0⟩, 0, []⟩ fun _ hmem => absurd hmem List.not_mem_nil
  have hcomplete := @startNetwork_complete _ _ _ obliging _ _ hempty edits hspare fleet
    (fun _ _ => rfl) ⟨⟨0⟩, ⟨0⟩, 0, []⟩
  -- the run is not looked into from here on
  generalize (startNetwork (empty.editedAll edits)).runOn obliging.recorded.handler fleet
    ⟨⟨0⟩, ⟨0⟩, 0, []⟩ = run at hkeeps hcomplete ⊢
  obtain ⟨⟨outcome, left⟩, ended⟩ := run
  obtain ⟨rfl, hall⟩ := hcomplete (List.nil_append _).symm
    (smooth_of_granted (by decide) (by decide) hkeeps)
  have hstarted : startedIds ended.world.2 = ["b1", "b2", "r2"] := hall.order.trans (by decide)
  exact ⟨left, ended, rfl, hstarted, hall.tracks.trans hstarted, hall⟩

end Fleet

end LedgerNet
