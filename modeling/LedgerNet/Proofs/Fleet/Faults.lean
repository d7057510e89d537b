import LedgerNet.Proofs.Fleet.Waves

/-!
# Why a node is not created

Four things can stand against the creation of a node: a node is running under
its id, a node that it depends on is not running, its service does not start,
or no client can be bound to the service that has started. They are noticed in
this order, and the first of them is what the creation is refused for
(`Fleet.faults`). In the last case a service is running that nobody knows, so
it is asked to stop. That can fail as well. It is no fault of its own: it
comes after the fault that is reported, and takes nothing back of it.

A creation is tidy (`Fleet.Tidy`) if it says this and does no more. The first
two faults are found in the fleet, so they have to be noticed before anything
is asked of the network, and the fleet gets its entry at the very end, when no
fault can come any more.
-/

namespace LedgerNet

variable {κ σ : Type}

/-! ## Faults in a history -/

namespace NetworkEvent

/-- Whether a service is asked to start in an event. -/
def isStart : NetworkEvent κ → Bool
  | start _ _ => true
  | _ => false

/-- Whether a service is asked to stop in an event. -/
def isStop : NetworkEvent κ → Bool
  | stop _ _ _ => true
  | _ => false

/-- The fault of a node whose service does not start. -/
def startFault? (id : String) : NetworkEvent κ → Option FleetError
  | start _ (.error cause) => some (.start id cause)
  | _ => none

/-- The fault of a node to which no client can be bound. -/
def bindFault? (id : String) : NetworkEvent κ → Option FleetError
  | connect _ (.error cause) => some (.client id cause)
  | _ => none

end NetworkEvent

/-- **A service was left without a client**: it has started, and none could be
bound to it. -/
def Unbound (history : List (NetworkEvent κ)) : Prop :=
  ∃ spec ip cause, .start spec (.ok ip) ∈ history ∧ .connect ip (.error cause) ∈ history

namespace Fleet

variable {d : Definition} {node : NodeConfig} {fleet left : Fleet κ}
  {history : List (NetworkEvent κ)}

/-- **All that stands against the creation of a node**, in the order in which
it is noticed: an id that is taken, the nodes that it depends on and that are
not running, in their order, and what failed on the network. -/
def faults (fleet : Fleet κ) (node : NodeConfig) (history : List (NetworkEvent κ)) :
    List FleetError :=
  (if fleet.contains node.id then [.configuration (.duplicateNode node.id)] else [])
    ++ (node.dependsOn.filter fun peer => !fleet.contains peer.node).map (fun peer =>
      .notFound peer.node)
    ++ history.filterMap (NetworkEvent.startFault? node.id)
    ++ history.filterMap (NetworkEvent.bindFault? node.id)

/-- **A creation is tidy.** It fails for the first fault that there is, and
then the fleet is what it was; and if there is none it enters the node. It asks
for one start at most, and only if nothing in the fleet speaks against it, and
for one stop, if a service was left without a client. -/
structure Tidy (node : NodeConfig) (fleet : Fleet κ) (history : List (NetworkEvent κ))
    (outcome : Outcome FleetError (Checker κ)) (left : Fleet κ) : Prop where
  fails_iff : ∀ failure, outcome = .error failure
    ↔ ∃ cause, failure = .error cause ∧ (fleet.faults node history).head? = some cause
  unchanged : ∀ failure, outcome = .error failure → left = fleet
  /-- What was entered is the service that has started, at its address. -/
  entered : ∀ checker, outcome = .ok checker → ∃ spec ip client,
    .start spec (.ok ip) ∈ history ∧ .connect ip (.ok client) ∈ history
      ∧ fleet.contains node.id = false ∧ left = fleet.insert ⟨node.id, ip, client⟩
      ∧ checker = Checker.ofNode node.id client
  startsOnce : history.countP NetworkEvent.isStart ≤ 1
  startsNothing : (fleet.contains node.id = true
      ∨ ∃ peer ∈ node.dependsOn, fleet.contains peer.node = false) →
    history.countP NetworkEvent.isStart = 0
  stopsOnce_iff : history.countP NetworkEvent.isStop = 1 ↔ Unbound history
  stopsNothing : ¬ Unbound history → history.countP NetworkEvent.isStop = 0
  /-- Nothing is done to the service of another node. -/
  ownStart : ∀ spec reply, .start spec reply ∈ history → spec.id = node.id
  ownStop : ∀ id grace reply, .stop id grace reply ∈ history → id = node.id

/-! ## Faults in the fleet -/

/-- **The first node that is not running** is the one that is missed. -/
theorem mapM_tracked_of_missing {peers : List Peer} {missing : Peer}
    (h : peers.find? (fun peer => !fleet.contains peer.node) = some missing) :
    peers.mapM (fun peer => TrackedNode.ip <$> fleet.tracked peer.node)
      = .error (.notFound missing.node) := by
  induction peers with
  | nil => simp at h
  | cons peer rest ih =>
    rw [List.mapM_cons]
    by_cases hrunning : fleet.contains peer.node = true
    · have hrest : rest.find? (fun peer => !fleet.contains peer.node) = some missing := by
        simpa [hrunning] using h
      obtain ⟨tracked, htracked⟩ := Option.isSome_iff_exists.1 hrunning
      rw [show fleet.tracked peer.node = .ok tracked by simp [Fleet.tracked, htracked], ih hrest]
      rfl
    · obtain rfl : peer = missing := by simpa [hrunning] using h
      have hnone : fleet.node? peer.node = none := by simpa [contains] using hrunning
      rw [show fleet.tracked peer.node = .error (.notFound peer.node) by
        simp [Fleet.tracked, hnone]]
      rfl

/-- A creation that misses a node fails for the first one that it misses. -/
theorem unfolds_of_missing {missing : Peer} {outcome : Outcome FleetError (Checker κ)}
    (hnew : fleet.contains node.id = false)
    (hmissing : node.dependsOn.find? (fun peer => !fleet.contains peer.node) = some missing)
    (h : (createUnchecked d node).Unfolds fleet history outcome left) :
    outcome = Outcome.failed (.notFound missing.node) := by
  unfold createUnchecked at h
  rw [Action.unfolds_state_bind, hnew, if_neg Bool.false_ne_true,
    Action.unfolds_ofExcept_bind, mapM_tracked_of_missing hmissing] at h
  rcases h with ⟨cause, hcause, -, rfl, -⟩ | ⟨_, hnever, -⟩
  · rw [← Except.error.inj hcause]
  · cases hnever

/-- Where all nodes that a node depends on are reached, none of them is
missing. -/
theorem filter_missing_eq_nil {peers : List Peer} {ips : List Ip}
    (h : List.Forall₂ fleet.Reaches peers ips) :
    peers.filter (fun peer => !fleet.contains peer.node) = [] := by
  refine List.filter_eq_nil_iff.2 fun peer hpeer => ?_
  obtain ⟨_, -, tracked, hmem, hid, -⟩ := exists_mem_of_forall₂ h peer hpeer
  simp [contains_iff.2 ⟨tracked, hmem, hid⟩]

/-! ## The first fault -/

theorem head?_faults_of_taken (h : fleet.contains node.id = true) :
    (fleet.faults node history).head? = some (.configuration (.duplicateNode node.id)) := by
  simp [faults, h]

theorem head?_faults_of_missing {missing : Peer} (hnew : fleet.contains node.id = false)
    (hmissing : node.dependsOn.find? (fun peer => !fleet.contains peer.node) = some missing) :
    (fleet.faults node history).head? = some (.notFound missing.node) := by
  simp [faults, hnew, hmissing, List.head?_append, List.head?_filter]

/-- Where nothing in the fleet speaks against a node, only the network can. -/
theorem faults_of_linked {ips : List Ip} (hnew : fleet.contains node.id = false)
    (hlinks : List.Forall₂ fleet.Reaches node.dependsOn ips) :
    fleet.faults node history = history.filterMap (NetworkEvent.startFault? node.id)
      ++ history.filterMap (NetworkEvent.bindFault? node.id) := by
  simp [faults, hnew, filter_missing_eq_nil hlinks]

/-- What is reported is the first fault, whatever else there is. -/
theorem fails_iff_of_head? {cause : FleetError}
    (h : (fleet.faults node history).head? = some cause)
    (failure : Failure FleetError) :
    (Outcome.failed cause : Outcome FleetError (Checker κ)) = .error failure
      ↔ ∃ first, failure = .error first ∧ (fleet.faults node history).head? = some first := by
  rw [h]
  constructor
  · intro hfailure
    exact ⟨cause, (Except.error.inj hfailure).symm, rfl⟩
  · rintro ⟨first, rfl, hfirst⟩
    rw [Option.some.inj hfirst]
    rfl

/-! ## Every creation is tidy -/

/-- A creation that fails before anything is asked of the network. -/
theorem Tidy.of_nothing_asked {cause : FleetError}
    (h : (fleet.faults node []).head? = some cause) :
    Tidy node fleet [] (Outcome.failed cause) fleet where
  fails_iff := fails_iff_of_head? h
  unchanged _ _ := rfl
  entered _ hnever := absurd hnever nofun
  startsOnce := Nat.zero_le 1
  startsNothing _ := rfl
  stopsOnce_iff := by simp [Unbound]
  stopsNothing _ := rfl
  ownStart _ _ hnever := absurd hnever List.not_mem_nil
  ownStop _ _ _ hnever := absurd hnever List.not_mem_nil

/-- Nothing in the fleet speaks against a node that is new to it and reaches
its peers. -/
theorem not_refused_of_linked {ips : List Ip} (hnew : fleet.contains node.id = false)
    (hlinks : List.Forall₂ fleet.Reaches node.dependsOn ips) :
    ¬ (fleet.contains node.id = true
      ∨ ∃ peer ∈ node.dependsOn, fleet.contains peer.node = false) := by
  rintro (htaken | ⟨peer, hpeer, hmissing⟩)
  · rw [hnew] at htaken
    cases htaken
  · obtain ⟨_, -, tracked, hmem, hid, -⟩ := exists_mem_of_forall₂ hlinks peer hpeer
    rw [contains_iff.2 ⟨tracked, hmem, hid⟩] at hmissing
    cases hmissing

theorem Tidy.of_notStarted {ips : List Ip} {spec : ServiceSpec} {cause : ServiceError}
    (hnew : fleet.contains node.id = false)
    (hlinks : List.Forall₂ fleet.Reaches node.dependsOn ips) (hown : spec.id = node.id) :
    Tidy node fleet [.start spec (.error cause)] (Outcome.failed (.start node.id cause))
      fleet where
  fails_iff := fails_iff_of_head? (by rw [faults_of_linked hnew hlinks]; rfl)
  unchanged _ _ := rfl
  entered _ hnever := absurd hnever nofun
  startsOnce := Nat.le_refl 1
  startsNothing hrefused := absurd hrefused (not_refused_of_linked hnew hlinks)
  stopsOnce_iff := by simp [Unbound, NetworkEvent.isStop]
  stopsNothing _ := rfl
  ownStart := by simp [hown]
  ownStop := by simp

theorem Tidy.of_notBound {ips : List Ip} {spec : ServiceSpec} {ip : Ip} {cause : ApiError}
    {grace : Duration} {reply : Except ServiceError Unit} (hnew : fleet.contains node.id = false)
    (hlinks : List.Forall₂ fleet.Reaches node.dependsOn ips) (hown : spec.id = node.id) :
    Tidy node fleet
      [.start spec (.ok ip), .connect ip (.error cause), .stop node.id grace reply]
      (Outcome.failed (.client node.id cause)) fleet := by
  have hunbound : Unbound [.start spec (.ok ip), .connect ip (.error cause),
      (.stop node.id grace reply : NetworkEvent κ)] :=
    ⟨spec, ip, cause, by simp, by simp⟩
  exact {
    fails_iff := fails_iff_of_head? (by rw [faults_of_linked hnew hlinks]; rfl)
    unchanged := fun _ _ => rfl
    entered := fun _ hnever => absurd hnever nofun
    startsOnce := Nat.le_refl 1
    startsNothing := fun hrefused => absurd hrefused (not_refused_of_linked hnew hlinks)
    stopsOnce_iff := iff_of_true rfl hunbound
    stopsNothing := fun hbound => absurd hunbound hbound
    ownStart := by simp [hown]
    ownStop := by simp +contextual }

theorem Tidy.of_made {ips : List Ip} {spec : ServiceSpec} {ip : Ip} {client : κ}
    (hnew : fleet.contains node.id = false)
    (hlinks : List.Forall₂ fleet.Reaches node.dependsOn ips) (hown : spec.id = node.id) :
    Tidy node fleet [.start spec (.ok ip), .connect ip (.ok client)]
      (.ok (Checker.ofNode node.id client)) (fleet.insert ⟨node.id, ip, client⟩) where
  fails_iff failure := by
    rw [show fleet.faults node _ = [] from faults_of_linked hnew hlinks]
    simp
  unchanged _ hnever := absurd hnever nofun
  entered checker hchecker :=
    ⟨spec, ip, client, by simp, by simp, hnew, rfl, (Except.ok.inj hchecker).symm⟩
  startsOnce := Nat.le_refl 1
  startsNothing hrefused := absurd hrefused (not_refused_of_linked hnew hlinks)
  stopsOnce_iff := by simp [Unbound, NetworkEvent.isStop]
  stopsNothing _ := rfl
  ownStart := by simp [hown]
  ownStop := by simp

/-- **Every creation is tidy**, whatever it is asked for and however the
network behaves. -/
theorem tidy_createUnchecked {outcome : Outcome FleetError (Checker κ)}
    (h : (createUnchecked d node).Unfolds fleet history outcome left) :
    Tidy node fleet history outcome left := by
  cases made_createUnchecked h with
  | unmade hunmade =>
    cases hunmade with
    | taken htaken => exact .of_nothing_asked (head?_faults_of_taken htaken)
    | unlinked hnew peer hpeer hmissing =>
      -- The relation names a node that is missing; the run says that it is the first.
      have hsome : (node.dependsOn.find? fun peer => !fleet.contains peer.node).isSome := by
        simp only [List.find?_isSome, Bool.not_eq_true']
        exact ⟨peer, hpeer, hmissing⟩
      obtain ⟨first, hfirst⟩ := Option.isSome_iff_exists.1 hsome
      rw [unfolds_of_missing hnew hfirst h]
      exact .of_nothing_asked (head?_faults_of_missing hnew hfirst)
    | notStarted hnew ips hlinks cause => exact .of_notStarted hnew hlinks rfl
    | notBound hnew ips hlinks ip cause reply => exact .of_notBound hnew hlinks rfl
  | made hnew ips hlinks ip client follows =>
    obtain ⟨rfl, rfl⟩ := follows
    exact .of_made hnew hlinks rfl

/-- **Creating a node fails cleanly.** On every network and in every fleet, a
creation comes to an end, what it asks of the network is added to the record,
and it is tidy. -/
theorem createUnchecked_failsCleanly (deployment : Deployment κ σ) (d : Definition)
    (node : NodeConfig) (fleet : Fleet κ) (t : Timeline (σ × List (NetworkEvent κ))) :
    ∃ outcome left ended history,
      (createUnchecked d node).runOn deployment.recorded.handler fleet t
        = ((outcome, left), ended)
      ∧ ended.world.2 = t.world.2 ++ history
      ∧ Tidy node fleet history outcome left := by
  obtain ⟨history, hended, hunfolds⟩ :=
    Action.unfolds_runOn deployment (createUnchecked d node) fleet t
  exact ⟨_, _, _, history, rfl, hended, tidy_createUnchecked hunfolds⟩

end Fleet

end LedgerNet
