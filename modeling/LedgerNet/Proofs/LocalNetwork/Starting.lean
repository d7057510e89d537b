import LedgerNet.Proofs.Program.Acting
import LedgerNet.Proofs.Program.Looking
import LedgerNet.Rehearsal.LocalNetwork

/-!
# Starting nodes on a network in memory

On a network in memory that holds nobody back, a node that starts is ready.
So the fleet and the network grow together: after every step the services
are the nodes of the fleet, in the order of their starts and at the
addresses that go with it (`Runs`). A node can start if its id is new, if
the nodes that it depends on are running and if there is an address left,
and a network can start if all of its nodes can, one after the other
(`Startable`).

No start takes time or touches the ledger.
-/

namespace LedgerNet

namespace Book

variable {ν : Type} {book : Book ν} {name : String}

/-- There is nothing under a name that no entry has. -/
theorem get?_eq_none_iff : book.get? name = none ↔ ∀ entry ∈ book.entries, entry.1 ≠ name := by
  unfold get?
  induction book.entries with
  | nil => simp [lookup]
  | cons entry rest ih =>
    unfold lookup
    by_cases h : entry.1 = name <;> simp [h, ih]

/-- What is put under a new name comes last. -/
theorem entries_put_of_new (h : book.get? name = none) (value : ν) :
    (book.put name value).entries = book.entries ++ [(name, value)] := by
  have hne := get?_eq_none_iff.1 h
  unfold put
  generalize book.entries = entries at hne ⊢
  induction entries with
  | nil => rfl
  | cons entry rest ih =>
    obtain ⟨hentry, hrest⟩ := List.forall_mem_cons.1 hne
    simp only [replace, if_neg hentry, List.cons_append, List.cons.injEq, true_and]
    exact ih hrest

end Book

/-! ## Being ready -/

namespace Checker

variable {κ σ ε : Type} {answer : Proc.Handler (Clients κ) σ} {world : σ} {checker : Checker κ}

/-- A round of questions to a node that says yes on every lane. -/
theorem observes_pollLanes
    (hready : ∀ lane, answer (checker.client, .isBootstrapped lane) world = (.ok true, world))
    (lanes : List Lane) :
    ∃ polled : Checker κ, (checker.pollLanes lanes : Attempt (Timed (Clients κ)) ε _).Observes
      answer world (.ok (true, polled)) := by
  induction lanes generalizing checker with
  | nil => exact ⟨checker, Attempt.observes_pure⟩
  | cons lane rest ih =>
    unfold pollLanes
    split
    · exact ih hready
    · obtain ⟨polled, hpolled⟩ := @ih { checker with record := checker.record.mark lane } hready
      refine ⟨polled, Attempt.Observes.bind (Attempt.observes_callNode (hready lane)).outcome ?_⟩
      exact hpolled

/-- **A node that says yes on every lane is ready** at the first look. -/
theorem observes_awaitReady {budget : PollBudget} (hattempts : 0 < budget.maxAttempts.toNat)
    (hready : ∀ lane, answer (checker.client, .isBootstrapped lane) world = (.ok true, world)) :
    (checker.awaitReady budget).Observes answer world (.ok ()) := by
  obtain ⟨polled, hpolled⟩ := observes_pollLanes (ε := ReadinessError) hready
    ReadinessRecord.order
  have hrounds : (rounds budget.interval checker budget.maxAttempts.toNat).Observes answer world
      (.ok (true, polled) : Outcome ReadinessError _) := by
    obtain ⟨left, hleft⟩ := Nat.exists_eq_succ_of_ne_zero (Nat.ne_of_gt hattempts)
    rw [hleft]
    -- the first attempt settles it, and only the last one is followed by no pause
    cases left with
    | zero => exact hpolled
    | succ left => exact Attempt.Observes.bind hpolled Attempt.observes_pure
  exact Attempt.Observes.bind (Attempt.Observes.bind hrounds Attempt.observes_pure)
    Attempt.observes_pure

end Checker

/-! ## Services and the fleet -/

namespace LocalNetwork

/-- The address of the service that starts after some others. -/
def ipAt (started : Nat) : Ip := .v4 (.ofOctets 10 0 0 (started + 2))

/-- Services with their addresses, in the order of their starts. -/
def placed (ids : List String) : List (String × Ip) :=
  ids.zipIdx.map fun (id, started) => (id, ipAt started)

theorem placed_append (ids : List String) (id : String) :
    placed (ids ++ [id]) = placed ids ++ [(id, ipAt ids.length)] := by
  simp [placed, List.zipIdx_append]

theorem map_fst_placed (ids : List String) : (placed ids).map Prod.fst = ids := by
  unfold placed
  rw [List.map_map]
  exact List.zipIdx_map_fst 0 ids

/-- The addresses that are handed out are different ones. -/
theorem ipAt_ne {earlier later : Nat} (hlt : earlier < later) (hroom : later + 2 < 256) :
    ipAt earlier ≠ ipAt later := by
  intro h
  have hvalue : (Ipv4.ofOctets 10 0 0 (earlier + 2)).value.toNat
      = (Ipv4.ofOctets 10 0 0 (later + 2)).value.toNat := by
    rw [Ip.v4.inj h]
  simp only [Ipv4.ofOctets, UInt32.toNat_ofNat'] at hvalue
  omega

/-- No service that is running has the address of the next one. -/
theorem ne_ipAt_of_mem_placed {ids : List String} {place : String × Ip}
    (hroom : ids.length + 2 < 256) (hmem : place ∈ placed ids) :
    place.2 ≠ ipAt ids.length := by
  obtain ⟨⟨id, started⟩, hplace, rfl⟩ := List.mem_map.1 hmem
  exact ipAt_ne (by simpa using (List.mem_zipIdx hplace).2.1) hroom

/-- **A network runs some services**, over some ledger: those that were
started, in their order, and it holds none back. -/
structure Runs (ledger : Ledger) (ids : List String) (network : LocalNetwork) : Prop where
  ledger_eq : network.ledger = ledger
  services : network.services.entries.map (fun entry => (entry.1, entry.2.ip)) = placed ids
  startOrder : network.startOrder = ids
  heldBack : network.heldBack = []

variable {ledger : Ledger} {ids : List String} {network : LocalNetwork}

/-- **A new service starts**, at the next address, and a client can be bound
to it. -/
theorem Runs.start (h : Runs ledger ids network) (spec : ServiceSpec) (hnew : spec.id ∉ ids)
    (hroom : ids.length + 2 < 256) :
    ∃ started, LocalNetwork.start spec network = (.ok (ipAt ids.length), started)
      ∧ Runs ledger (ids ++ [spec.id]) started
      ∧ started.connect (ipAt ids.length) = .ok ⟨spec.id, ipAt ids.length⟩ := by
  obtain ⟨hledger, hservices, horder, hheld⟩ := h
  have hnone : network.services.get? spec.id = none := by
    refine Book.get?_eq_none_iff.2 fun entry hmem heq => hnew ?_
    have hplaced : (entry.1, entry.2.ip) ∈ placed ids :=
      hservices ▸ List.mem_map_of_mem hmem
    rw [← heq, ← map_fst_placed ids]
    exact List.mem_map_of_mem hplaced
  -- addresses are counted by starts, which is by services as long as none is stopped
  have hnext : nextAddress network.startOrder.length = .ok (ipAt ids.length) := by
    rw [horder]
    exact if_pos hroom
  obtain ⟨service, hservice, hstarted⟩ : ∃ service : LocalService, service.ip = ipAt ids.length
      ∧ LocalNetwork.start spec network = (.ok (ipAt ids.length), { network with
        startCalls := network.startCalls + 1
        startOrder := network.startOrder ++ [spec.id]
        services := network.services.put spec.id service }) := by
    refine ⟨⟨ipAt ids.length, spec.image, spec.command (ipAt ids.length)
      (spec.mountsIn Conventions.volumeMountpoint)⟩, rfl, ?_⟩
    simp only [LocalNetwork.start, hnone, hnext]
    rfl
  have hentries := Book.entries_put_of_new hnone service
  refine ⟨_, hstarted, ⟨hledger, ?_, ?_, hheld⟩, ?_⟩
  · simp only [hentries, List.map_append, hservices, placed_append, List.map_cons, List.map_nil,
      hservice]
  · simp only [horder]
  · -- nobody who was there has the new address
    have hother : network.services.entries.find? (fun entry => entry.2.ip == ipAt ids.length)
        = none := by
      refine List.find?_eq_none.2 fun entry hmem => ?_
      have hplaced : (entry.1, entry.2.ip) ∈ placed ids :=
        hservices ▸ List.mem_map_of_mem hmem
      rw [beq_iff_eq]
      exact ne_ipAt_of_mem_placed hroom hplaced
    simp only [connect, hentries, List.find?_append, hother, List.find?_cons, hservice,
      beq_self_eq_true, Option.none_or]

/-- **The fleet of some services**: every one with its address, and with a
client that is bound to it. -/
def fleetOf (settings : FleetSettings) (ids : List String) : Fleet LocalClient :=
  ⟨settings, (placed ids).map fun (id, ip) => ⟨id, ip, ⟨id, ip⟩⟩⟩

variable (settings : FleetSettings) {id : String}

/-- A fleet of some services and one more. -/
theorem fleetOf_append (ids : List String) (id : String) :
    fleetOf settings (ids ++ [id])
      = (fleetOf settings ids).insert ⟨id, ipAt ids.length, ⟨id, ipAt ids.length⟩⟩ := by
  simp [fleetOf, Fleet.insert, placed_append]

theorem map_id_fleetOf (ids : List String) :
    (fleetOf settings ids).nodes.map TrackedNode.id = ids := by
  unfold fleetOf
  rw [List.map_map]
  exact map_fst_placed ids

/-- **A node that is running is tracked**, with a client of its service. -/
theorem tracked_fleetOf (hmem : id ∈ ids) :
    ∃ ip, (fleetOf settings ids).tracked id = .ok ⟨id, ip, ⟨id, ip⟩⟩ := by
  rw [← map_fst_placed ids] at hmem
  obtain ⟨place, hplace, rfl⟩ := List.mem_map.1 hmem
  -- that some node is found is enough: one that is found has the id, and is its own service
  have hfound : ((fleetOf settings ids).node? place.1).isSome := by
    unfold Fleet.node?
    rw [List.find?_isSome]
    exact ⟨_, List.mem_map_of_mem hplace, by simp⟩
  obtain ⟨tracked, htracked⟩ := Option.isSome_iff_exists.1 hfound
  obtain ⟨other, hother, rfl⟩ := List.mem_map.1 (List.mem_of_find?_eq_some htracked)
  have hid : other.1 = place.1 := by simpa using List.find?_some htracked
  refine ⟨other.2, ?_⟩
  unfold Fleet.tracked
  rw [htracked, ← hid]

/-- Nothing else is tracked. -/
theorem contains_fleetOf (hnew : id ∉ ids) : (fleetOf settings ids).contains id = false := by
  unfold Fleet.contains Fleet.node?
  rw [Option.isSome_eq_false_iff, Option.isNone_iff_eq_none, List.find?_eq_none]
  rintro tracked hmem heq
  rw [← map_id_fleetOf settings ids, beq_iff_eq.1 heq |>.symm] at hnew
  exact hnew (List.mem_map_of_mem hmem)

/-! ## Growing -/

variable {settings}

/-- **A program makes a network grow**: it succeeds wherever some services
run, and others run in the end. -/
def Grows {ε α : Type} (settings : FleetSettings) (p : FleetAction LocalClient ε α)
    (ids grown : List String) (post : α → Prop) : Prop :=
  ∀ (ledger : Ledger) (epoch now : Duration) (network : LocalNetwork), Runs ledger ids network →
    ∃ value started,
      p.runOn deployment.handler (fleetOf settings ids) ⟨epoch, now, network⟩
          = ((.ok value, fleetOf settings grown), ⟨epoch, now, started⟩)
        ∧ Runs ledger grown started ∧ post value

namespace Grows

variable {ε α β : Type} {p : FleetAction LocalClient ε α} {next : α → FleetAction LocalClient ε β}
  {grown final : List String} {post : α → Prop} {after : β → Prop} {value : α}

theorem of_pure (hpost : post value) :
    Grows settings (pure value : FleetAction LocalClient ε α) ids ids post :=
  fun _ _ _ network hruns => ⟨value, network, rfl, hruns, hpost⟩

theorem bind (hp : Grows settings p ids grown post)
    (hnext : ∀ value, post value → Grows settings (next value) grown final after) :
    Grows settings (p >>= next) ids final after := by
  intro ledger epoch now network hruns
  obtain ⟨value, started, hrun, hgrown, hpost⟩ := hp ledger epoch now network hruns
  obtain ⟨result, last, hrest, hfinal, hafter⟩ := hnext value hpost ledger epoch now started hgrown
  exact ⟨result, last, (Action.runOn_bind_ok hrun).trans hrest, hfinal, hafter⟩

theorem state_bind {next : Fleet LocalClient → FleetAction LocalClient ε β}
    (hnext : Grows settings (next (fleetOf settings ids)) ids final after) :
    Grows settings (Action.state >>= next) ids final after :=
  hnext

theorem ofExcept {result : Except ε α} (hresult : result = .ok value) (hpost : post value) :
    Grows settings (Action.ofExcept result) ids ids post := by
  subst hresult
  exact of_pure hpost

end Grows

/-- The nodes that a node depends on are running. -/
theorem mapM_tracked (settings : FleetSettings) {peers : List Peer}
    (h : ∀ peer ∈ peers, peer.node ∈ ids) :
    ∃ ips, peers.mapM (fun peer => TrackedNode.ip <$> (fleetOf settings ids).tracked peer.node)
      = .ok ips := by
  induction peers with
  | nil => exact ⟨[], rfl⟩
  | cons peer rest ih =>
    obtain ⟨hpeer, hrest⟩ := List.forall_mem_cons.1 h
    obtain ⟨ip, hip⟩ := tracked_fleetOf settings hpeer
    obtain ⟨ips, hips⟩ := ih hrest
    refine ⟨ip :: ips, ?_⟩
    rw [List.mapM_cons, hip, hips]
    rfl

/-- **Starting a node** without waiting for it. -/
theorem grows_createUnchecked {d : Definition} {node : NodeConfig} (hnew : node.id ∉ ids)
    (hdeps : ∀ peer ∈ node.dependsOn, peer.node ∈ ids) (hroom : ids.length + 2 < 256) :
    Grows settings (Fleet.createUnchecked d node) ids (ids ++ [node.id]) fun _ => True := by
  intro ledger epoch now network hruns
  obtain ⟨ips, hips⟩ := mapM_tracked settings hdeps
  obtain ⟨started, hstart, hgrown, hconnect⟩ :=
    hruns.start (Fleet.serviceOf d node ips) hnew hroom
  have hasked : (Action.request (Network.start (Fleet.serviceOf d node ips)) :
      FleetAction LocalClient FleetError _).runOn deployment.handler (fleetOf settings ids)
        ⟨epoch, now, network⟩
      = ((.ok (.ok (ipAt ids.length)), fleetOf settings ids), ⟨epoch, now, started⟩) := by
    rw [Action.runOn_request]
    show ((Except.ok (LocalNetwork.start _ network).1, _),
      (⟨epoch, now, (LocalNetwork.start _ network).2⟩ : Timeline LocalNetwork)) = _
    rw [hstart]
  have hbound : (Fleet.bind node.id (ipAt ids.length)).runOn deployment.handler
        (fleetOf settings ids) ⟨epoch, now, started⟩
      = ((.ok ⟨node.id, ipAt ids.length⟩, fleetOf settings ids), ⟨epoch, now, started⟩) := by
    have hrequest : (Action.request (Network.connect (ipAt ids.length)) :
        FleetAction LocalClient FleetError _).runOn deployment.handler (fleetOf settings ids)
          ⟨epoch, now, started⟩
        = ((.ok (.ok ⟨node.id, ipAt ids.length⟩), fleetOf settings ids),
          ⟨epoch, now, started⟩) := by
      rw [Action.runOn_request]
      show ((Except.ok (started.connect (ipAt ids.length)), _),
        (⟨epoch, now, started⟩ : Timeline LocalNetwork)) = _
      rw [hconnect]
      rfl
    exact Action.runOn_bind_ok hrequest
  refine ⟨Checker.ofNode node.id ⟨node.id, ipAt ids.length⟩, started, ?_, hgrown, trivial⟩
  unfold Fleet.createUnchecked
  refine (Action.runOn_bind_ok Action.runOn_state).trans ?_
  rw [contains_fleetOf settings hnew, if_neg Bool.false_ne_true]
  refine (Action.runOn_bind_ok (Action.runOn_ofExcept hips)).trans ?_
  refine (Action.runOn_bind_ok hasked).trans ?_
  refine (Action.runOn_bind_ok hbound).trans ?_
  rw [fleetOf_append]
  exact Action.runOn_bind_ok (Action.runOn_change _)

/-- A node that nobody holds back says that it is ready. -/
theorem isBootstrapped_of_runs (h : Runs ledger ids network) (client : LocalClient) (lane : Lane) :
    answer (client, .isBootstrapped lane) network = (.ok true, network) := by
  show ((.ok (!network.heldBack.contains client.service) : Outcome ApiError Bool), network) = _
  rw [h.heldBack]
  rfl

/-- **Starting a node and waiting for it.** -/
theorem grows_create {d : Definition} {node : NodeConfig} (hnew : node.id ∉ ids)
    (hdeps : ∀ peer ∈ node.dependsOn, peer.node ∈ ids) (hroom : ids.length + 2 < 256)
    (hattempts : 0 < settings.startup.maxAttempts.toNat) :
    Grows settings (Fleet.create d node) ids (ids ++ [node.id]) fun _ => True := by
  have hmem : node.id ∈ ids ++ [node.id] := by simp
  obtain ⟨ip, htracked⟩ := tracked_fleetOf settings hmem
  refine Grows.bind (grows_createUnchecked hnew hdeps hroom) fun checker _ => ?_
  refine Grows.state_bind ?_
  have hwaited : Grows settings (Action.calling (Concurrent.lift
      ((checker.awaitReady settings.startup).wrap (FleetError.readiness node.id))))
      (ids ++ [node.id]) (ids ++ [node.id]) fun _ => True := by
    intro ledger epoch now network hruns
    refine ⟨(), network, Action.runOn_lift ?_, hruns, trivial⟩
    have hready := Checker.observes_awaitReady hattempts
      (isBootstrapped_of_runs hruns checker.client)
    have hrun : (checker.awaitReady settings.startup).runOn (Timeline.handler deployment.answer)
        ⟨epoch, now, network⟩ = (.ok (), ⟨epoch, now, network⟩) := hready.runOn_eq
    rw [Network.runOn_lift, Concurrent.runOn_lift, Attempt.runOn_wrap, hrun]
    rfl
  refine Grows.bind hwaited fun _ _ => Grows.state_bind ?_
  exact Grows.ofExcept htracked trivial

/-! ## Waves -/

/-- **Some nodes can start** one after the other where others are running:
their ids are new, the nodes that they depend on are running by then, and
there are addresses for all. -/
def Startable (ids : List String) : List NodeConfig → Prop
  | [] => True
  | node :: rest =>
    node.id ∉ ids ∧ (∀ peer ∈ node.dependsOn, peer.node ∈ ids) ∧ ids.length + 2 < 256
      ∧ Startable (ids ++ [node.id]) rest

/-- Nodes can start after others if they can where those are running. -/
theorem startable_append {nodes more : List NodeConfig} :
    Startable ids (nodes ++ more)
      ↔ Startable ids nodes ∧ Startable (ids ++ nodes.map NodeConfig.id) more := by
  induction nodes generalizing ids with
  | nil => simp [Startable]
  | cons node rest ih => simp [Startable, ih, and_assoc]

/-- Starting some nodes without waiting for them. -/
theorem grows_mapM_createUnchecked {d : Definition} {nodes : List NodeConfig}
    (h : Startable ids nodes) :
    Grows settings (nodes.mapM (Fleet.createUnchecked d)) ids
      (ids ++ nodes.map NodeConfig.id) fun _ => True := by
  induction nodes generalizing ids with
  | nil =>
    rw [List.map_nil, List.append_nil]
    exact Grows.of_pure trivial
  | cons node rest ih =>
    obtain ⟨hnew, hdeps, hroom, hrest⟩ := h
    rw [List.mapM_cons, List.map_cons, List.append_cons]
    refine Grows.bind (grows_createUnchecked hnew hdeps hroom) fun checker _ => ?_
    exact Grows.bind (ih hrest) fun checkers _ => Grows.of_pure trivial

/-- Starting some nodes and waiting for each. -/
theorem grows_forM_create {d : Definition} {nodes : List NodeConfig} (h : Startable ids nodes)
    (hattempts : 0 < settings.startup.maxAttempts.toNat) :
    Grows settings (nodes.forM fun node => do let _ ← Fleet.create d node) ids
      (ids ++ nodes.map NodeConfig.id) fun _ => True := by
  induction nodes generalizing ids with
  | nil =>
    rw [List.map_nil, List.append_nil]
    exact Grows.of_pure trivial
  | cons node rest ih =>
    obtain ⟨hnew, hdeps, hroom, hrest⟩ := h
    have hnode : Grows settings (Fleet.create d node >>= fun _ => pure ()) ids (ids ++ [node.id])
        fun _ => True :=
      Grows.bind (grows_create hnew hdeps hroom hattempts) fun _ _ => Grows.of_pure trivial
    rw [List.map_cons, List.append_cons]
    exact Grows.bind hnode fun _ _ => ih hrest

/-- No node of a wave fails if all of them are ready. -/
theorem firstWaveFailure?_ready (checkers : List (Checker LocalClient)) (count : Nat) :
    Fleet.firstWaveFailure? checkers (List.replicate count (.ok ())) = none := by
  refine List.findSome?_eq_none_iff.2 ?_
  rintro ⟨checker, outcome⟩ hmem
  obtain rfl := List.eq_of_mem_replicate (List.of_mem_zip hmem).2
  rfl

/-- **Waiting for a wave.** -/
theorem grows_awaitWave (checkers : List (Checker LocalClient))
    (hattempts : 0 < settings.bootstrapWave.maxAttempts.toNat) :
    Grows settings (Fleet.awaitWave checkers) ids ids fun _ => True := by
  have hwaited : Grows settings (Action.calling (Concurrent.together
      (checkers.map fun checker => checker.awaitReady settings.bootstrapWave)) :
        FleetAction LocalClient FleetError _) ids ids
      fun outcomes => ∃ count, outcomes = List.replicate count (.ok ()) := by
    intro ledger epoch now network hruns
    refine ⟨List.replicate checkers.length (.ok ()), network, Action.runOn_lift ?_, hruns,
      checkers.length, rfl⟩
    -- nobody is held back, so each task of the wave only looks
    rw [Network.runOn_lift, ← List.length_map (fun checker : Checker LocalClient =>
      checker.awaitReady settings.bootstrapWave)]
    refine Concurrent.runOn_together_of_observes fun task htask => ?_
    obtain ⟨checker, -, rfl⟩ := List.mem_map.1 htask
    exact Checker.observes_awaitReady hattempts (isBootstrapped_of_runs hruns checker.client)
  refine Grows.state_bind (Grows.bind hwaited ?_)
  rintro _ ⟨count, rfl⟩
  rw [firstWaveFailure?_ready]
  exact Grows.of_pure trivial

/-- **Starting a network**: the bootstrap nodes in one wave, the others one by
one. -/
theorem grows_startNetwork {d : Definition}
    (h : Startable ids (d.bootstrapNodes ++ d.regularNodes))
    (hwave : 0 < settings.bootstrapWave.maxAttempts.toNat)
    (hstartup : 0 < settings.startup.maxAttempts.toNat) :
    Grows settings (Fleet.startNetwork d) ids
      (ids ++ (d.bootstrapNodes ++ d.regularNodes).map NodeConfig.id) fun _ => True := by
  obtain ⟨hbootstrap, hregular⟩ := startable_append.1 h
  rw [List.map_append, ← List.append_assoc]
  refine Grows.bind (grows_mapM_createUnchecked hbootstrap) fun checkers _ => ?_
  refine Grows.bind (grows_awaitWave checkers hwave) fun _ _ => ?_
  exact grows_forM_create hregular hstartup

end LocalNetwork

end LedgerNet
