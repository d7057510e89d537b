import LedgerNet.Proofs.Fleet.Starting

/-!
# The order in which a network starts

Whatever fails while a network starts, and however the nodes answer, its
services start in one order: the bootstrap nodes along the chain, and then
the regular nodes as they were added. A start can be short, but it skips
nothing. No node is asked anything before all bootstrap nodes are created,
and before a regular node starts all nodes before it have said on every lane
that they have caught up. This is `InTwoWaves`.

A creation starts at most one service, and that is the first thing that
happens in it (`Made.begins`). So what happened before a start is the whole
history of the nodes that came before, and all of them were created
(`InTurn.split_start`); everything else follows from that.
-/

namespace LedgerNet

variable {κ σ : Type}

/-! ## What can be seen in a history -/

/-- The id of the service that is asked to start. -/
def NetworkEvent.startedId? : NetworkEvent κ → Option String
  | start spec _ => some spec.id
  | _ => none

/-- **A creation fails here**: the service does not start, or no client can be
bound to it. -/
def NetworkEvent.Fails : NetworkEvent κ → Prop
  | start _ (.error _) | connect _ (.error _) => True
  | _ => False

/-- **The services that are asked to start**, in their order. -/
def startedIds (history : List (NetworkEvent κ)) : List String :=
  history.filterMap NetworkEvent.startedId?

/-- **A node comes to be in a history**: its service starts, a client is bound
to it, and `after` is what happens from then on. -/
def CreatedIn (history : List (NetworkEvent κ)) (tracked : TrackedNode κ)
    (after : List (NetworkEvent κ)) : Prop :=
  ∃ before spec, spec.id = tracked.id
    ∧ history = before ++ .start spec (.ok tracked.ip) :: .connect tracked.ip (.ok tracked.client)
      :: after

/-- **The node of an id has been created.** -/
def Created (history : List (NetworkEvent κ)) (id : String) : Prop :=
  ∃ tracked after, tracked.id = id ∧ CreatedIn history tracked after

/-- **The node of an id is ready**: it has been created, and has said since
then on every lane that it has caught up. -/
def Ready (history : List (NetworkEvent κ)) (id : String) : Prop :=
  ∃ tracked after, tracked.id = id ∧ CreatedIn history tracked after
    ∧ ∀ lane, .query (.caughtUp tracked.client lane) ∈ after

section Histories

variable {history more before after : List (NetworkEvent κ)} {id : String}
  {tracked : TrackedNode κ} {event : NetworkEvent κ}

@[simp]
theorem startedIds_append : startedIds (history ++ more) = startedIds history ++ startedIds more :=
  List.filterMap_append

@[simp]
theorem startedIds_cons_start (spec : ServiceSpec) (reply : Except ServiceError Ip) :
    startedIds (.start spec reply :: history) = spec.id :: startedIds history :=
  rfl

/-- Nothing starts while nodes are asked. -/
@[simp]
theorem startedIds_map_query (log : List (Exchange (Clients κ))) :
    startedIds (log.map .query) = [] := by
  unfold startedIds
  rw [List.filterMap_map]
  exact List.filterMap_eq_nil_iff.2 fun _ _ => rfl

/-- More can happen afterwards. -/
theorem CreatedIn.append_right (h : CreatedIn history tracked after) :
    CreatedIn (history ++ more) tracked (after ++ more) := by
  obtain ⟨before, spec, hid, rfl⟩ := h
  exact ⟨before, spec, hid, by simp⟩

/-- More can have happened before. -/
theorem CreatedIn.append_left (h : CreatedIn history tracked after) :
    CreatedIn (more ++ history) tracked after := by
  obtain ⟨before, spec, hid, rfl⟩ := h
  exact ⟨more ++ before, spec, hid, (List.append_assoc _ _ _).symm⟩

theorem Created.append_right (h : Created history id) : Created (history ++ more) id := by
  obtain ⟨tracked, after, hid, hcreated⟩ := h
  exact ⟨tracked, after ++ more, hid, hcreated.append_right⟩

theorem Created.append_left (h : Created history id) : Created (more ++ history) id := by
  obtain ⟨tracked, after, hid, hcreated⟩ := h
  exact ⟨tracked, after, hid, hcreated.append_left⟩

theorem Ready.append_right (h : Ready history id) : Ready (history ++ more) id := by
  obtain ⟨tracked, after, hid, hcreated, hall⟩ := h
  exact ⟨tracked, after ++ more, hid, hcreated.append_right,
    fun lane => List.mem_append_left more (hall lane)⟩

theorem Ready.append_left (h : Ready history id) : Ready (more ++ history) id := by
  obtain ⟨tracked, after, hid, hcreated, hall⟩ := h
  exact ⟨tracked, after, hid, hcreated.append_left, hall⟩

/-- What happens in two histories happens in one of them. -/
theorem split_append (h : history ++ more = before ++ event :: after) :
    (∃ rest, history = before ++ event :: rest ∧ after = rest ++ more)
      ∨ ∃ front, before = history ++ front ∧ more = front ++ event :: after := by
  rcases List.append_eq_append_iff.1 h with ⟨front, hbefore, hmore⟩ | ⟨rest, hhistory, hafter⟩
  · exact Or.inr ⟨front, hbefore, hmore⟩
  · cases rest with
    | nil => exact Or.inr ⟨[], by simpa using hhistory.symm, hafter.symm⟩
    | cons first rest =>
      obtain ⟨rfl, rfl⟩ := List.cons.inj hafter
      exact Or.inl ⟨rest, hhistory, rfl⟩

/-- While nodes are asked nothing else happens. -/
theorem eq_query_of_split {log : List (Exchange (Clients κ))}
    (h : log.map .query = before ++ event :: after) : ∃ exchange, event = .query exchange := by
  have hmem : event ∈ log.map .query := by simp [h]
  obtain ⟨exchange, -, heq⟩ := List.mem_map.1 hmem
  exact ⟨exchange, heq.symm⟩

/-- Lists that go together have a partner for every member. -/
theorem exists_mem_of_forall₂ {α β : Type} {R : α → β → Prop} {l : List α} {m : List β}
    (h : List.Forall₂ R l m) : ∀ a ∈ l, ∃ b ∈ m, R a b := by
  induction h with
  | nil => exact nofun
  | cons hfirst _ ih =>
    refine List.forall_mem_cons.2 ⟨⟨_, List.mem_cons_self, hfirst⟩, fun a hmem => ?_⟩
    obtain ⟨b, hb, hab⟩ := ih a hmem
    exact ⟨b, List.mem_cons_of_mem _ hb, hab⟩

end Histories

namespace Fleet

variable {β : Type} {d : Definition} {node : NodeConfig} {nodes : List NodeConfig}
  {fleet left : Fleet κ} {sequel : Sequel κ β} {history before after : List (NetworkEvent κ)}
  {event : NetworkEvent κ} {spec : ServiceSpec} {reply : Except ServiceError Ip}

/-! ## One node -/

/-- **A creation begins with its start**: nothing starts in it, or its first
event is the start of the node, which is new and whose peers are running. -/
theorem Made.begins {outcome : Outcome FleetError β}
    (h : Made d sequel node fleet history outcome left) :
    startedIds history = [] ∨ ∃ ips reply tail, fleet.contains node.id = false
      ∧ List.Forall₂ fleet.Reaches node.dependsOn ips
      ∧ history = .start (serviceOf d node ips) reply :: tail ∧ startedIds tail = [] := by
  cases h with
  | unmade hunmade =>
    cases hunmade with
    | taken => exact Or.inl rfl
    | unlinked => exact Or.inl rfl
    | notStarted new ips links cause => exact Or.inr ⟨ips, _, _, new, links, rfl, rfl⟩
    | notBound new ips links => exact Or.inr ⟨ips, _, _, new, links, rfl, rfl⟩
  | made new ips links => exact Or.inr ⟨ips, _, _, new, links, rfl, startedIds_map_query _⟩

/-- Whatever happens in a creation, nothing starts after it. -/
theorem Made.startedIds_after {outcome : Outcome FleetError β}
    (h : Made d sequel node fleet (before ++ event :: after) outcome left) :
    startedIds after = [] := by
  rcases h.begins with hnone | ⟨_, _, tail, -, -, hsplit, htail⟩
  · rw [List.append_cons, startedIds_append, List.append_eq_nil_iff] at hnone
    exact hnone.2
  · cases before with
    | nil =>
      rw [(List.cons.inj hsplit).2]
      exact htail
    | cons first before =>
      have hlater : startedIds (before ++ event :: after) = [] := by
        rw [← htail, ← (List.cons.inj hsplit).2]
        rfl
      rw [List.append_cons, startedIds_append, List.append_eq_nil_iff] at hlater
      exact hlater.2

/-- **Before the start of a node** nothing happens in its creation. -/
theorem Made.split_start {outcome : Outcome FleetError β}
    (h : Made d sequel node fleet (before ++ .start spec reply :: after) outcome left) :
    before = [] ∧ fleet.contains node.id = false
      ∧ ∃ ips, List.Forall₂ fleet.Reaches node.dependsOn ips ∧ spec = serviceOf d node ips := by
  rcases h.begins with hnone | ⟨ips, _, tail, hnew, hlinks, hsplit, htail⟩
  · simp at hnone
  · cases before with
    | nil =>
      obtain ⟨rfl, -⟩ := NetworkEvent.start.inj (List.cons.inj hsplit).1
      exact ⟨rfl, hnew, ips, hlinks, rfl⟩
    | cons first before =>
      rw [← (List.cons.inj hsplit).2] at htail
      exact absurd htail (by simp)

/-- What starts in a creation is the node, if it is new. -/
theorem Made.startedIds_eq {outcome : Outcome FleetError β}
    (h : Made d sequel node fleet history outcome left) :
    startedIds history = [] ∨ startedIds history = [node.id] ∧ fleet.contains node.id = false := by
  rcases h.begins with hnone | ⟨ips, reply, tail, hnew, -, rfl, htail⟩
  · exact Or.inl hnone
  · refine Or.inr ⟨?_, hnew⟩
    rw [startedIds_cons_start, htail]
    rfl

section Created

variable {value : β} (h : Made d sequel node fleet history (.ok value) left)
include h

theorem Made.startedIds_of_ok : startedIds history = [node.id] := by
  obtain ⟨_, _, _, said, -, -, rfl, -, -⟩ := h.of_ok
  exact congrArg (node.id :: ·) (startedIds_map_query said)

/-- A node that is created was new, and it is in the fleet from then on. -/
theorem Made.contains_of_ok (id : String) :
    left.contains id = (fleet.contains id || node.id == id) := by
  obtain ⟨_, _, _, _, -, -, -, rfl, -⟩ := h.of_ok
  exact contains_insert

theorem Made.created : Created history node.id := by
  obtain ⟨_, ip, client, _, -, -, rfl, -, -⟩ := h.of_ok
  exact ⟨⟨node.id, ip, client⟩, _, rfl, [], _, rfl, rfl⟩

/-- **If a node is created**, nothing has failed. -/
theorem Made.not_fails : ∀ event ∈ history, ¬ event.Fails := by
  obtain ⟨ips, ip, client, said, -, -, rfl, -, -⟩ := h.of_ok
  intro event hmem
  rcases List.mem_cons.1 hmem with rfl | hmem
  · exact id
  rcases List.mem_cons.1 hmem with rfl | hmem
  · exact id
  obtain ⟨exchange, -, rfl⟩ := List.mem_map.1 hmem
  exact id

end Created

/-- **A node that was waited for** is ready. -/
theorem Made.ready {attempts : Nat} {value : TrackedNode κ}
    (h : Made d (.awaited attempts) node fleet history (.ok value) left) :
    Ready history node.id := by
  obtain ⟨_, ip, client, said, -, -, rfl, -, ended, hwaited, hvalue⟩ := h.of_ok
  refine ⟨⟨node.id, ip, client⟩, _, rfl, ⟨[], _, rfl, rfl⟩, fun lane => ?_⟩
  cases hwaited with
  | ready _ all => exact List.mem_map_of_mem (all lane)
  | exhausted => cases hvalue
  | broken => cases hvalue

/-- A node that is not waited for is asked nothing. -/
theorem Made.not_query {outcome : Outcome FleetError (Checker κ)}
    (h : Made d .unchecked node fleet history outcome left) (exchange : Exchange (Clients κ)) :
    .query exchange ∉ history := by
  cases h with
  | unmade hunmade => cases hunmade <;> simp
  | made _ _ _ _ _ follows =>
    obtain ⟨rfl, -⟩ := follows
    simp

/-! ## Nodes in turn -/

/-- **Nodes start in their order**, and if one fails the others do not
start. -/
theorem InTurn.startedIds_prefix {outcome : Outcome FleetError (List β)}
    (h : InTurn d sequel nodes fleet history outcome left) :
    startedIds history <+: nodes.map NodeConfig.id := by
  induction h with
  | finished => exact List.nil_prefix
  | failed hmade =>
    rcases hmade.startedIds_eq with hnone | ⟨hone, -⟩
    · rw [hnone]
      exact List.nil_prefix
    · rw [hone]
      exact ⟨_, rfl⟩
  | passed hmade _ ih =>
    rw [startedIds_append, hmade.startedIds_of_ok]
    exact (List.prefix_cons_inj _).2 ih

/-- **No id starts twice**: every one is new to the fleet when it starts. -/
theorem InTurn.startedIds_new {outcome : Outcome FleetError (List β)}
    (h : InTurn d sequel nodes fleet history outcome left) :
    (startedIds history).Nodup ∧ ∀ id ∈ startedIds history, fleet.contains id = false := by
  induction h with
  | finished => exact ⟨List.nodup_nil, nofun⟩
  | failed hmade =>
    rcases hmade.startedIds_eq with hnone | ⟨hone, hnew⟩
    · rw [hnone]
      exact ⟨List.nodup_nil, nofun⟩
    · rw [hone]
      exact ⟨List.pairwise_singleton _ _, fun id hid => List.mem_singleton.1 hid ▸ hnew⟩
  | passed hmade _ ih =>
    obtain ⟨hnodup, hothers⟩ := ih
    rw [startedIds_append, hmade.startedIds_of_ok]
    refine ⟨List.nodup_cons.2 ⟨fun hmem => ?_, hnodup⟩, fun id hid => ?_⟩
    · have hknown := hothers _ hmem
      rw [hmade.contains_of_ok] at hknown
      simp at hknown
    · rcases List.mem_cons.1 hid with rfl | hid
      · obtain ⟨_, _, _, _, hnew, -⟩ := hmade.of_ok
        exact hnew
      · have hnew := hothers _ hid
        rw [hmade.contains_of_ok, Bool.or_eq_false_iff] at hnew
        exact hnew.1

/-- **After a failure** in a creation nothing starts. -/
theorem InTurn.startedIds_after_failure {outcome : Outcome FleetError (List β)}
    (h : InTurn d sequel nodes fleet history outcome left) (hfails : event.Fails)
    (hsplit : history = before ++ event :: after) : startedIds after = [] := by
  induction h generalizing before with
  | finished => simp at hsplit
  | failed hmade =>
    subst hsplit
    exact hmade.startedIds_after
  | passed hmade _ ih =>
    rcases split_append hsplit with ⟨rest, rfl, -⟩ | ⟨front, -, hrest⟩
    · exact absurd hfails (hmade.not_fails event (by simp))
    · exact ih hrest

/-- **What happened before a start** is the whole history of the nodes before
the one that starts, and that one is new while its peers are running. The
induction follows the row until the creation in which the start is. -/
theorem InTurn.split_start {outcome : Outcome FleetError (List β)}
    (h : InTurn d sequel nodes fleet history outcome left)
    (hsplit : history = before ++ .start spec reply :: after) :
    ∃ passed node rest values between ips, nodes = passed ++ node :: rest
      ∧ InTurn d sequel passed fleet before (.ok values) between
      ∧ between.contains node.id = false ∧ List.Forall₂ between.Reaches node.dependsOn ips
      ∧ spec = serviceOf d node ips := by
  induction h generalizing before with
  | finished => simp at hsplit
  | @failed node rest fleet _ _ _ hmade =>
    subst hsplit
    obtain ⟨rfl, hnew, ips, hlinks, rfl⟩ := hmade.split_start
    exact ⟨[], node, rest, [], fleet, ips, rfl, .finished fleet, hnew, hlinks, rfl⟩
  | @passed node rest fleet _ _ _ _ _ _ hmade _ ih =>
    rcases split_append hsplit with ⟨_, rfl, -⟩ | ⟨front, rfl, hrest⟩
    · obtain ⟨rfl, hnew, ips, hlinks, rfl⟩ := hmade.split_start
      exact ⟨[], node, rest, [], fleet, ips, rfl, .finished fleet, hnew, hlinks, rfl⟩
    · obtain ⟨passed, later, rest, values, between, ips, rfl, hpassed, hlater⟩ := ih hrest
      exact ⟨node :: passed, later, rest, _, between, ips, rfl, .passed hmade hpassed, hlater⟩

section Finished

variable {values : List β}

theorem InTurn.startedIds_of_ok (h : InTurn d sequel nodes fleet history (.ok values) left) :
    startedIds history = nodes.map NodeConfig.id := by
  induction nodes generalizing fleet history values with
  | nil =>
    cases h
    rfl
  | cons node rest ih =>
    obtain ⟨_, _, _, _, _, rfl, rfl, hmade, hothers⟩ := h.of_cons_ok
    rw [startedIds_append, hmade.startedIds_of_ok, ih hothers]
    rfl

/-- What is new to the fleet in the end was so before, and has not started. -/
theorem InTurn.new_of_ok (h : InTurn d sequel nodes fleet history (.ok values) left) {id : String}
    (hnew : left.contains id = false) : fleet.contains id = false ∧ id ∉ startedIds history := by
  induction nodes generalizing fleet history values with
  | nil =>
    cases h
    exact ⟨hnew, List.not_mem_nil⟩
  | cons node rest ih =>
    obtain ⟨_, _, _, _, _, rfl, rfl, hmade, hothers⟩ := h.of_cons_ok
    obtain ⟨hbetween, hlater⟩ := ih hothers
    rw [hmade.contains_of_ok, Bool.or_eq_false_iff, beq_eq_false_iff_ne] at hbetween
    rw [startedIds_append, hmade.startedIds_of_ok]
    exact ⟨hbetween.1, List.not_mem_cons_of_ne_of_not_mem hbetween.2.symm hlater⟩

theorem InTurn.not_fails (h : InTurn d sequel nodes fleet history (.ok values) left) :
    ∀ event ∈ history, ¬ event.Fails := by
  induction nodes generalizing fleet history values with
  | nil =>
    cases h
    exact nofun
  | cons node rest ih =>
    obtain ⟨_, _, _, _, _, rfl, rfl, hmade, hothers⟩ := h.of_cons_ok
    exact List.forall_mem_append.2 ⟨hmade.not_fails, ih hothers⟩

/-- **All nodes of a row are created** if it goes well. -/
theorem InTurn.created (h : InTurn d sequel nodes fleet history (.ok values) left) :
    ∀ node ∈ nodes, Created history node.id := by
  induction nodes generalizing fleet history values with
  | nil => exact nofun
  | cons node rest ih =>
    obtain ⟨_, _, _, _, _, rfl, rfl, hmade, hothers⟩ := h.of_cons_ok
    exact List.forall_mem_cons.2 ⟨hmade.created.append_right,
      fun other hmem => (ih hothers other hmem).append_left⟩

/-- **All nodes of a row are ready** if it goes well and they were waited
for. -/
theorem InTurn.ready {attempts : Nat} {values : List (TrackedNode κ)}
    (h : InTurn d (.awaited attempts) nodes fleet history (.ok values) left) :
    ∀ node ∈ nodes, Ready history node.id := by
  induction nodes generalizing fleet history values with
  | nil => exact nofun
  | cons node rest ih =>
    obtain ⟨_, _, _, _, _, rfl, rfl, hmade, hothers⟩ := h.of_cons_ok
    exact List.forall_mem_cons.2 ⟨hmade.ready.append_right,
      fun other hmem => (ih hothers other hmem).append_left⟩

/-- **Every node of the first wave is bound to a client**, and these are the
clients of the wave. -/
theorem InTurn.bound {checkers : List (Checker κ)}
    (h : InTurn d .unchecked nodes fleet history (.ok checkers) left) :
    List.Forall₂ (fun node checker =>
        ∃ ip after, CreatedIn history ⟨node.id, ip, checker.client⟩ after) nodes checkers := by
  induction nodes generalizing fleet history checkers with
  | nil =>
    cases h
    exact .nil
  | cons node rest ih =>
    obtain ⟨_, _, _, _, _, rfl, rfl, hmade, hothers⟩ := h.of_cons_ok
    obtain ⟨_, ip, client, _, -, -, rfl, -, -, hvalue⟩ := hmade.of_ok
    obtain rfl := Except.ok.inj hvalue
    refine .cons ?_ ((ih hothers).imp fun node checker hcreated => ?_)
    · exact ⟨ip, _, CreatedIn.append_right ⟨[], _, rfl, rfl⟩⟩
    · obtain ⟨ip, after, hcreated⟩ := hcreated
      exact ⟨ip, after, hcreated.append_left⟩

end Finished

/-! ## Both waves -/

variable {outcome : Outcome FleetError Unit} {checkers : List (Checker κ)} {attempts : Nat}
  {log : List (Exchange (Clients κ))}

/-- Nothing is asked in the first row. -/
theorem InTurn.not_query {outcome : Outcome FleetError (List (Checker κ))}
    (h : InTurn d .unchecked nodes fleet history outcome left) (exchange : Exchange (Clients κ)) :
    .query exchange ∉ history := by
  induction h with
  | finished => exact List.not_mem_nil
  | failed hmade => exact hmade.not_query exchange
  | passed hmade _ ih =>
    intro hmem
    rcases List.mem_append.1 hmem with hmem | hmem
    · exact hmade.not_query exchange hmem
    · exact ih hmem

/-- **If the wave goes well** all bootstrap nodes are ready after it. -/
theorem Wave.ready_of_row (h : InTurn d .unchecked nodes fleet history (.ok checkers) left)
    (hwave : Wave attempts checkers log (.ok ())) :
    ∀ node ∈ nodes, Ready (history ++ log.map .query) node.id := by
  generalize hended : (Except.ok () : Outcome FleetError Unit) = ended at hwave
  cases hwave with
  | unready => cases hended
  | ready all =>
    intro node hmem
    obtain ⟨checker, hchecker, ip, after, hcreated⟩ := exists_mem_of_forall₂ h.bound node hmem
    obtain ⟨own, rest, hsaid, hwaited⟩ := all checker hchecker
    refine ⟨_, _, rfl, hcreated.append_right, fun lane => List.mem_append_right _ ?_⟩
    refine List.mem_map_of_mem (hsaid.mem_iff.2 (List.mem_append_left rest ?_))
    cases hwaited with
    | ready _ all => exact all lane

/-- **What goes before the start of a service**: it is a bootstrap node and
those before it in the chain have been created, or it is a regular node and
all nodes before it are ready. -/
inductive InPlace (d : Definition) (before : List (NetworkEvent κ)) (spec : ServiceSpec) :
    Prop where
  | bootstrap {passed rest : List NodeConfig} {node : NodeConfig}
    (split : d.bootstrapNodes = passed ++ node :: rest) (id_eq : spec.id = node.id)
    (started : startedIds before = passed.map NodeConfig.id)
    (created : ∀ other ∈ passed, Created before other.id)
  | regular {passed rest : List NodeConfig} {node : NodeConfig}
    (split : d.regularNodes = passed ++ node :: rest) (id_eq : spec.id = node.id)
    (started : startedIds before = (d.bootstrapNodes ++ passed).map NodeConfig.id)
    (ready : ∀ other ∈ d.bootstrapNodes ++ passed, Ready before other.id)

/-- **A network that starts in two waves**, as far as it comes. -/
structure InTwoWaves (d : Definition) (history : List (NetworkEvent κ)) : Prop where
  /-- The bootstrap nodes start in the order of the chain, and then the regular
  nodes in the order in which they were added. -/
  inOrder : startedIds history <+: (d.bootstrapNodes ++ d.regularNodes).map NodeConfig.id
  once : (startedIds history).Nodup
  /-- No node is asked anything before all bootstrap nodes are created. -/
  asks : ∀ before exchange after, history = before ++ .query exchange :: after →
    ∀ node ∈ d.bootstrapNodes, Created before node.id
  starts : ∀ before spec reply after, history = before ++ .start spec reply :: after →
    InPlace d before spec
  /-- After the first failure nothing starts. -/
  stops : ∀ before event after, history = before ++ event :: after → event.Fails →
    startedIds after = []

section Rows

variable {first rest : List (NetworkEvent κ)} {between : Fleet κ}

/-- **A first row that fails** is all that there is. -/
theorem inTwoWaves_of_failure {outcome : Outcome FleetError (List (Checker κ))}
    (h : InTurn d .unchecked d.bootstrapNodes fleet history outcome left) :
    InTwoWaves d history := by
  refine ⟨?_, h.startedIds_new.1, ?_, ?_, ?_⟩
  · rw [List.map_append]
    exact h.startedIds_prefix.trans (List.prefix_append _ _)
  · rintro before exchange after rfl
    exact absurd (by simp) (h.not_query exchange)
  · intro before spec reply after hsplit
    obtain ⟨passed, node, others, _, _, ips, hnodes, hpassed, -, -, rfl⟩ := h.split_start hsplit
    exact .bootstrap hnodes rfl hpassed.startedIds_of_ok hpassed.created
  · intro before event after hsplit hfails
    exact h.startedIds_after_failure hfails hsplit

/-- **A first row that goes well**, what is asked then, and a row of regular
nodes if the wave went well. -/
theorem inTwoWaves_of_rows
    (h : InTurn d .unchecked d.bootstrapNodes fleet first (.ok checkers) between)
    (log : List (Exchange (Clients κ))) {regular skipped : List NodeConfig}
    (hregular : d.regularNodes = regular ++ skipped)
    (hready : regular ≠ [] → ∀ node ∈ d.bootstrapNodes, Ready (first ++ log.map .query) node.id)
    {outcome : Outcome FleetError (List (TrackedNode κ))}
    (hothers : InTurn d (.awaited attempts) regular between rest outcome left) :
    InTwoWaves d (first ++ (log.map .query ++ rest)) := by
  refine ⟨?_, ?_, ?_, ?_, ?_⟩
  · rw [startedIds_append, startedIds_append, startedIds_map_query, h.startedIds_of_ok,
      List.map_append, hregular, List.map_append, List.nil_append]
    exact (List.prefix_append_right_inj _).2
      (hothers.startedIds_prefix.trans (List.prefix_append _ _))
  · rw [startedIds_append, startedIds_append, startedIds_map_query, List.nil_append]
    obtain ⟨hnodup, hnew⟩ := hothers.startedIds_new
    refine List.nodup_append.2 ⟨h.startedIds_new.1, hnodup, ?_⟩
    rintro id hid _ hother rfl
    exact (h.new_of_ok (hnew id hother)).2 hid
  · intro before exchange after hsplit node hmem
    rcases split_append hsplit with ⟨_, rfl, -⟩ | ⟨front, rfl, -⟩
    · exact absurd (by simp) (h.not_query exchange)
    · exact (h.created node hmem).append_right
  · intro before spec reply after hsplit
    rcases split_append hsplit with ⟨_, hfirst, -⟩ | ⟨front, rfl, hlater⟩
    · obtain ⟨passed, node, others, _, _, ips, hnodes, hpassed, -, -, rfl⟩ := h.split_start hfirst
      exact .bootstrap hnodes rfl hpassed.startedIds_of_ok hpassed.created
    rcases split_append hlater with ⟨_, hlog, -⟩ | ⟨front, rfl, hrest⟩
    · obtain ⟨_, hnever⟩ := eq_query_of_split hlog
      cases hnever
    obtain ⟨passed, node, others, _, _, ips, hnodes, hpassed, -, -, rfl⟩ :=
      hothers.split_start hrest
    have hwaved := hready (by simp [hnodes])
    have hplace : d.regularNodes = passed ++ node :: (others ++ skipped) := by
      rw [hregular, hnodes, List.append_assoc]
      rfl
    refine .regular hplace rfl ?_ ?_
    · rw [startedIds_append, startedIds_append, startedIds_map_query, List.nil_append,
        h.startedIds_of_ok, hpassed.startedIds_of_ok, List.map_append]
    · rw [← List.append_assoc]
      exact List.forall_mem_append.2 ⟨fun other hmem => (hwaved other hmem).append_right,
        fun other hmem => (hpassed.ready other hmem).append_left⟩
  · intro before event after hsplit hfails
    rcases split_append hsplit with ⟨_, rfl, -⟩ | ⟨front, rfl, hlater⟩
    · exact absurd hfails (h.not_fails event (by simp))
    rcases split_append hlater with ⟨_, hlog, -⟩ | ⟨front, rfl, hrest⟩
    · obtain ⟨_, rfl⟩ := eq_query_of_split hlog
      exact absurd hfails id
    · exact hothers.startedIds_after_failure hfails hrest

/-- **A network starts in two waves** in every history of its start. -/
theorem Starting.inTwoWaves (h : Starting d fleet history outcome left) : InTwoWaves d history := by
  cases h with
  | uncreated row => exact inTwoWaves_of_failure row
  | unready row wave =>
    have hnone : InTurn d (.awaited 0) [] left [] (.ok []) left := .finished left
    rw [← List.append_nil (List.map _ _)]
    exact inTwoWaves_of_rows row _ (List.nil_append _).symm (absurd rfl) hnone
  | waved row wave others =>
    exact inTwoWaves_of_rows row _ (List.append_nil _).symm (fun _ => wave.ready_of_row row) others

end Rows

/-- **A network starts in two waves** on every deployment, whatever fails and
however the nodes answer. -/
theorem startNetwork_inTwoWaves (deployment : Deployment κ σ) (d : Definition) (fleet : Fleet κ)
    (t : Timeline (σ × List (NetworkEvent κ))) :
    ∃ history, ((startNetwork d).runOn deployment.recorded.handler fleet t).2.world.2
        = t.world.2 ++ history ∧ InTwoWaves d history := by
  obtain ⟨history, hrecord, hunfolds⟩ := Action.unfolds_runOn deployment (startNetwork d) fleet t
  exact ⟨history, hrecord, (starting_startNetwork hunfolds).inTwoWaves⟩

end Fleet

end LedgerNet
