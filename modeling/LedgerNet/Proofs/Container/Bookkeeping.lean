import LedgerNet.Proofs.Container.Calls
import LedgerNet.Proofs.Net.Ipv4
import Mathlib.Data.List.Nodup

/-!
# The books of a runner

A runner keeps books of its containers and of its addresses, and the machine
may fail it at any command and at any file. The books are right all the same,
after every call. A service is on record if and only if a start of it has
ended well and no stop of it has since. No two containers on record share a
name or an address, and no address is ever passed to two containers, also
where the first one did not come to run or has been stopped. This is
`serve_books`.

What makes addresses unique is the order in which things are done. An address
is taken from the pool before anything else can fail, and never put back.
-/

namespace LedgerNet

variable {σ : Type}

/-! ## Addresses -/

namespace AddressPool

/-- **The address that is taken** is the one at the next offset, which is then
behind the pool. -/
theorem take_eq_ok {pool rest : AddressPool} {ip : Ipv4} (h : pool.take = .ok (ip, rest)) :
    ip = pool.subnet.address pool.next ∧ rest = { pool with next := pool.next + 1 }
      ∧ pool.next < 2 ^ 32 := by
  unfold take at h
  split at h
  · rename_i hle
    obtain ⟨rfl, rfl⟩ := Prod.mk.inj (Except.ok.inj h)
    refine ⟨rfl, rfl, Nat.lt_of_le_of_lt hle ?_⟩
    have hpow : 2 ^ (32 - pool.subnet.bits) ≤ 2 ^ 32 :=
      Nat.pow_le_pow_right (by decide) (Nat.sub_le _ _)
    unfold Subnet.hostCount
    omega
  · cases h

end AddressPool

/-- Two offsets lead to two addresses. -/
theorem Subnet.address_ne {subnet : Subnet} {offset other : Nat} (hlt : offset < other)
    (hother : other < 2 ^ 32) : subnet.address offset ≠ subnet.address other := by
  intro h
  have hvalue := congrArg (fun ip : Ipv4 => ip.value.toNat) h
  simp only [Subnet.address, UInt32.toNat_ofNat'] at hvalue
  omega

/-- **A command passes an address** to a container. -/
def Issued.Passes (ip : String) (command : Issued) : Prop :=
  ∃ name network rest, command.1
    = "run" :: "-d" :: "--name" :: name :: "--network" :: network :: "--ip" :: ip :: rest

namespace ContainerRunner

variable {runner left : ContainerRunner} {commands : List Issued}

/-- What runs the container of a service passes its address. -/
theorem passes_runCommand {spec : ServiceSpec} {ip : Ipv4} {reply : Except FileError CommandRun}
    {other : String} (h : Issued.Passes other (runner.runCommand spec ip, reply)) :
    other = ip.text := by
  obtain ⟨name, network, rest, heq⟩ := h
  unfold runCommand runArgs at heq
  simp only [List.cons_append, List.cons.injEq] at heq
  exact heq.2.2.2.2.2.2.2.1.symm

/-- **The addresses that were passed** are behind the pool, and each was passed
once. -/
structure PassedOnce (commands : List Issued) (runner : ContainerRunner) : Prop where
  behind : ∀ command ∈ commands, ∀ ip, command.Passes ip →
    ∃ offset < runner.pool.next, ip = (runner.pool.subnet.address offset).text
  once : commands.Pairwise fun a b => ∀ ip, a.Passes ip → ¬ b.Passes ip

/-- Commands that run nothing pass nothing. -/
theorem PassedOnce.append (h : PassedOnce commands runner) {more : List Issued}
    (hmore : ∀ command ∈ more, command.1.head? ≠ some "run") :
    PassedOnce (commands ++ more) runner := by
  have hnone : ∀ command ∈ more, ∀ ip, ¬ command.Passes ip := by
    rintro command hmem ip ⟨name, network, rest, heq⟩
    refine hmore command hmem ?_
    rw [heq]
    rfl
  constructor
  · intro command hmem ip hpasses
    rcases List.mem_append.1 hmem with hmem | hmem
    · exact h.behind command hmem ip hpasses
    · exact absurd hpasses (hnone command hmem ip)
  · refine List.pairwise_append.2 ⟨h.once, ?_, ?_⟩
    · exact List.pairwise_of_forall_mem_list fun a _ b hb ip _ => hnone b hb ip
    · exact fun a _ b hb ip _ => hnone b hb ip

/-- An address that is taken is behind the pool. -/
theorem PassedOnce.spend (h : PassedOnce commands runner) {ip : Ipv4} {pool : AddressPool}
    (htake : runner.pool.take = .ok (ip, pool)) :
    PassedOnce commands { runner with pool } := by
  obtain ⟨-, rfl, -⟩ := AddressPool.take_eq_ok htake
  refine ⟨fun command hmem other hpasses => ?_, h.once⟩
  obtain ⟨offset, hlt, heq⟩ := h.behind command hmem other hpasses
  exact ⟨offset, Nat.lt_succ_of_lt hlt, heq⟩

/-- It has not been passed before, and may be passed now. -/
theorem PassedOnce.pass (h : PassedOnce commands runner) {ip : Ipv4} {pool : AddressPool}
    (htake : runner.pool.take = .ok (ip, pool)) (spec : ServiceSpec)
    (reply : Except FileError CommandRun) :
    PassedOnce (commands ++ [(runner.runCommand spec ip, reply)]) { runner with pool } := by
  obtain ⟨hbehind, honce⟩ := h.spend htake
  obtain ⟨rfl, rfl, hnext⟩ := AddressPool.take_eq_ok htake
  constructor
  · intro command hmem other hpasses
    rcases List.mem_append.1 hmem with hmem | hmem
    · exact hbehind command hmem other hpasses
    · rw [List.mem_singleton.1 hmem] at hpasses
      exact ⟨runner.pool.next, Nat.lt_succ_self _, passes_runCommand hpasses⟩
  · refine List.pairwise_append.2 ⟨honce, List.pairwise_singleton _ _, ?_⟩
    -- what was passed before was at an offset that the pool has left behind
    intro a ha b hb other hpasses hagain
    rw [List.mem_singleton.1 hb] at hagain
    obtain ⟨offset, hlt, heq⟩ := h.behind a ha other hpasses
    rw [passes_runCommand hagain] at heq
    exact Subnet.address_ne hlt hnext (Ipv4.text_injective heq).symm

/-- **No call passes an address again.** -/
theorem PassedOnce.call (h : PassedOnce commands runner) {call : RunnerCall} {more : List Issued}
    {outcome : Outcome ServiceError Unit} (heffect : call.Effect runner more outcome left) :
    PassedOnce (commands ++ more) left := by
  cases heffect with
  | idle call commands outcome fails runs removes => exact h.append runs
  | spent spec commands outcome fails ip pool take_eq runs =>
    rcases runs with rfl | ⟨reply, -, rfl⟩
    · rw [List.append_nil]
      exact h.spend take_eq
    · exact h.pass take_eq spec reply
  | started spec new ip pool take_eq reply succeeds =>
    obtain ⟨hbehind, honce⟩ := h.pass take_eq spec reply
    exact ⟨hbehind, honce⟩
  | stopped service grace container found reply removal succeeds =>
    have hmore : ∀ command ∈ [((["stop", "-t", toString grace.seconds, container.name], reply) :
        Issued), (["rm", "-f", container.name], removal)], command.1.head? ≠ some "run" := by
      simp
    obtain ⟨hbehind, honce⟩ := h.append hmore
    exact ⟨hbehind, honce⟩

/-! ## Containers -/

/-- A container finds its place among those of other services. -/
theorem perm_insertSorted {container : Container} {containers : List Container}
    (hnew : ∀ other ∈ containers, other.service ≠ container.service) :
    (insertSorted container containers).Perm (container :: containers) := by
  induction containers with
  | nil => exact .refl _
  | cons other rest ih =>
    obtain ⟨hother, hrest⟩ := List.forall_mem_cons.1 hnew
    unfold insertSorted
    split
    · exact .refl _
    · rw [if_neg hother.symm]
      exact ((ih hrest).cons other).trans (.swap container other rest)

/-- A service is on record with one of the containers. -/
theorem isSome_container? {service : String} : (runner.container? service).isSome = true
    ↔ ∃ container ∈ runner.containers, container.service = service := by
  unfold container?
  rw [List.find?_isSome]
  simp only [beq_iff_eq]

/-- A container comes on record. -/
theorem mem_record {container other : Container}
    (hnew : ∀ other ∈ runner.containers, other.service ≠ container.service) :
    other ∈ (runner.record container).containers
      ↔ other = container ∨ other ∈ runner.containers :=
  (perm_insertSorted hnew).mem_iff.trans List.mem_cons

/-- A container goes off the record. -/
theorem mem_forget {service : String} {other : Container} :
    other ∈ (runner.forget service).containers
      ↔ other ∈ runner.containers ∧ other.service ≠ service := by
  unfold forget
  simp only [List.mem_filter, bne_iff_ne]

/-- What is true of one of the containers, when there is one more. -/
theorem exists_mem_record {container : Container} {p : Container → Prop}
    (hnew : ∀ other ∈ runner.containers, other.service ≠ container.service) :
    (∃ other ∈ (runner.record container).containers, p other)
      ↔ p container ∨ ∃ other ∈ runner.containers, p other := by
  simp only [mem_record hnew, or_and_right, exists_or, exists_eq_left]

/-- What comes on record is on record. -/
theorem isSome_record {container : Container} {service : String}
    (hnew : ∀ other ∈ runner.containers, other.service ≠ container.service) :
    ((runner.record container).container? service).isSome = true
      ↔ container.service = service ∨ (runner.container? service).isSome = true := by
  rw [isSome_container?, isSome_container?, exists_mem_record hnew]

/-- What is forgotten is not on record, and everything else is. -/
theorem isSome_forget {service other : String} :
    ((runner.forget service).container? other).isSome = true
      ↔ service ≠ other ∧ (runner.container? other).isSome = true := by
  simp only [isSome_container?, mem_forget]
  constructor
  · rintro ⟨container, ⟨hmem, hne⟩, rfl⟩
    exact ⟨hne.symm, container, hmem, rfl⟩
  · rintro ⟨hne, container, hmem, rfl⟩
    exact ⟨container, ⟨hmem, hne.symm⟩, rfl⟩

/-- No container is in the way of one that is new on record. -/
theorem ne_of_new {service : String} (h : runner.container? service = none) :
    ∀ container ∈ runner.containers, container.service ≠ service := by
  intro container hmem heq
  have hsome := isSome_container?.2 ⟨container, hmem, heq⟩
  rw [h] at hsome
  cases hsome

/-- **The containers on record** are of different services, are named after
them, and have different addresses, all of them behind the pool. -/
structure Told (runner : ContainerRunner) : Prop where
  services : (runner.containers.map Container.service).Nodup
  named : ∀ container ∈ runner.containers, container.name = runner.containerName container.service
  behind : ∀ container ∈ runner.containers, ∃ offset < runner.pool.next,
    container.ip = runner.pool.subnet.address offset
  ips : (runner.containers.map Container.ip).Nodup

/-- An address that is taken is of no container. -/
theorem Told.spend (h : Told runner) {ip : Ipv4} {pool : AddressPool}
    (htake : runner.pool.take = .ok (ip, pool)) :
    Told { runner with pool } ∧ ∀ container ∈ runner.containers, container.ip ≠ ip := by
  obtain ⟨rfl, rfl, hnext⟩ := AddressPool.take_eq_ok htake
  refine ⟨⟨h.services, h.named, fun container hmem => ?_, h.ips⟩, fun container hmem heq => ?_⟩
  · obtain ⟨offset, hlt, hip⟩ := h.behind container hmem
    exact ⟨offset, Nat.lt_succ_of_lt hlt, hip⟩
  · obtain ⟨offset, hlt, hip⟩ := h.behind container hmem
    exact Subnet.address_ne hlt hnext (hip.symm.trans heq)

/-- One more container is told from the others. -/
theorem Told.record (h : Told runner) {spec : ServiceSpec}
    (hnew : runner.container? spec.id = none) {ip : Ipv4} {pool : AddressPool}
    (htake : runner.pool.take = .ok (ip, pool)) :
    Told ({ runner with pool }.record ⟨spec.id, runner.containerName spec.id, ip⟩) := by
  obtain ⟨⟨hservices, hnamed, hbehind, hips⟩, hip⟩ := h.spend htake
  obtain ⟨hip_eq, hpool, -⟩ := AddressPool.take_eq_ok htake
  have hothers := ne_of_new hnew
  have hperm := @perm_insertSorted ⟨spec.id, runner.containerName spec.id, ip⟩ _ hothers
  constructor
  · show ((insertSorted _ runner.containers).map Container.service).Nodup
    rw [(hperm.map _).nodup_iff, List.map_cons, List.nodup_cons]
    refine ⟨fun hmem => ?_, hservices⟩
    obtain ⟨other, hother, heq⟩ := List.mem_map.1 hmem
    exact hothers other hother heq
  · intro container hmem
    rcases (mem_record hothers).1 hmem with rfl | hmem
    · rfl
    · exact hnamed container hmem
  · intro container hmem
    rcases (mem_record hothers).1 hmem with rfl | hmem
    · refine ⟨runner.pool.next, ?_, ?_⟩
      · rw [hpool]
        exact Nat.lt_succ_self _
      · rw [hpool]
        exact hip_eq
    · exact hbehind container hmem
  · show ((insertSorted _ runner.containers).map Container.ip).Nodup
    rw [(hperm.map _).nodup_iff, List.map_cons, List.nodup_cons]
    refine ⟨fun hmem => ?_, hips⟩
    obtain ⟨other, hother, heq⟩ := List.mem_map.1 hmem
    exact hip other hother heq

/-- One container fewer is as well. -/
theorem Told.forget (h : Told runner) (service : String) : Told (runner.forget service) := by
  have hsub : ((runner.forget service).containers).Sublist runner.containers :=
    List.filter_sublist
  exact ⟨h.services.sublist (hsub.map _),
    fun container hmem => h.named container (mem_forget.1 hmem).1,
    fun container hmem => h.behind container (mem_forget.1 hmem).1, h.ips.sublist (hsub.map _)⟩

/-- **Every call keeps the containers apart.** -/
theorem Told.call (h : Told runner) {call : RunnerCall} {more : List Issued}
    {outcome : Outcome ServiceError Unit} (heffect : call.Effect runner more outcome left) :
    Told left := by
  cases heffect with
  | idle call commands outcome fails runs removes => exact h
  | spent spec commands outcome fails ip pool take_eq runs => exact (h.spend take_eq).1
  | started spec new ip pool take_eq reply succeeds => exact h.record new take_eq
  | stopped service grace container found reply removal succeeds => exact h.forget service

/-- The name of a container tells its service. -/
theorem containerName_injective (runner : ContainerRunner) :
    Function.Injective runner.containerName := by
  intro a b h
  exact (String.append_right_inj (runner.project ++ "-")).1 h

/-- Different containers on record have different names. -/
theorem Told.nodup_names (h : Told runner) : (runner.containers.map Container.name).Nodup := by
  have hnames : runner.containers.map Container.name
      = (runner.containers.map Container.service).map runner.containerName := by
    rw [List.map_map]
    exact List.map_congr_left h.named
  rw [hnames]
  exact h.services.map runner.containerName_injective

/-! ## The record -/

/-- **A service is running by its calls**: a start of it has ended well, and no
stop of it has since. -/
def RunningAfter (history : List (RunnerCall × Outcome ServiceError Unit)) (service : String) :
    Prop :=
  Stands (fun called => ∃ spec, called = (.start spec, .ok ()) ∧ spec.id = service)
    (fun called => ∃ grace, called = (.stop service grace, .ok ())) history

/-- **The record agrees with the calls.** -/
def Recorded (history : List (RunnerCall × Outcome ServiceError Unit)) (runner : ContainerRunner) :
    Prop :=
  ∀ service, (runner.container? service).isSome = true ↔ RunningAfter history service

/-- A call that fails and leaves the containers alone is not seen in the
record. -/
theorem Recorded.unchanged {history : List (RunnerCall × Outcome ServiceError Unit)}
    (h : Recorded history runner) {call : RunnerCall} {outcome : Outcome ServiceError Unit}
    (hfails : outcome ≠ .ok ()) (hleft : left.containers = runner.containers) :
    Recorded (history ++ [(call, outcome)]) left := by
  intro service
  have hsame : left.container? service = runner.container? service := by
    unfold container?
    rw [hleft]
  rw [hsame, h service]
  unfold RunningAfter
  rw [stands_concat]
  constructor
  · refine fun hrunning => Or.inr ⟨hrunning, ?_⟩
    rintro ⟨grace, heq⟩
    exact hfails (Prod.mk.inj heq).2
  · rintro (⟨spec, heq, -⟩ | ⟨hrunning, -⟩)
    · exact absurd (Prod.mk.inj heq).2 hfails
    · exact hrunning

/-- **Every call keeps the record.** -/
theorem Recorded.call {history : List (RunnerCall × Outcome ServiceError Unit)}
    (h : Recorded history runner) {call : RunnerCall} {more : List Issued}
    {outcome : Outcome ServiceError Unit} (heffect : call.Effect runner more outcome left) :
    Recorded (history ++ [(call, outcome)]) left := by
  cases heffect with
  | idle call commands outcome fails runs removes => exact h.unchanged fails rfl
  | spent spec commands outcome fails ip pool take_eq runs => exact h.unchanged fails rfl
  | started spec new ip pool take_eq reply succeeds =>
    intro service
    have hothers : ∀ other ∈ ({ runner with pool } : ContainerRunner).containers,
        other.service ≠ spec.id := ne_of_new new
    unfold RunningAfter
    rw [isSome_record hothers, stands_concat]
    constructor
    · rintro (hid | hsome)
      · exact Or.inl ⟨spec, rfl, hid⟩
      · exact Or.inr ⟨(h service).1 hsome, by rintro ⟨grace, hnever⟩; cases hnever⟩
    · rintro (⟨_, heq, hid⟩ | ⟨hrunning, -⟩)
      · cases heq
        exact Or.inl hid
      · exact Or.inr ((h service).2 hrunning)
  | stopped service grace container found reply removal succeeds =>
    intro other
    unfold RunningAfter
    rw [isSome_forget, h other, stands_concat]
    constructor
    · rintro ⟨hne, hrunning⟩
      refine Or.inr ⟨hrunning, ?_⟩
      rintro ⟨_, heq⟩
      cases heq
      exact hne rfl
    · rintro (⟨_, hnever, -⟩ | ⟨hrunning, hkept⟩)
      · cases hnever
      · refine ⟨?_, hrunning⟩
        rintro rfl
        exact hkept ⟨grace, rfl⟩

/-! ## The books -/

/-- A new runner has nothing on record, and no address has been passed. -/
theorem Creating.books {env : Environment} {project : String} {limits : CommandLimits}
    (h : Creating env project limits commands (.ok runner)) :
    Recorded [] runner ∧ Told runner ∧ PassedOnce commands runner := by
  have hpasses : ∀ command ∈ commands, command.1.head? ≠ some "run" := by
    intro command hmem hrun
    rcases h.asks command hmem with hasked | ⟨subnet, network, hasked⟩
    · simp [hasked] at hrun
    · simp [hasked, networkArgs] at hrun
  have hrecorded : runner.containers = [] := by
    cases h
    rfl
  have hnone : PassedOnce [] runner := ⟨nofun, .nil⟩
  refine ⟨fun service => ?_, ?_, hnone.append hpasses⟩
  · rw [isSome_container?, hrecorded]
    exact iff_of_false (by simp) not_stands_nil
  · constructor <;> simp [hrecorded]

/-- A service on record is not started: nothing is asked, no address is taken,
and the runner stays as it is. -/
theorem runOn_start_recorded {τ : Type} (machine : Proc.Handler Host τ) {spec : ServiceSpec}
    (hrecorded : (runner.container? spec.id).isSome = true) (memory : τ) :
    (start spec).runOn machine runner memory
      = ((Outcome.failed (.ofText ("service " ++ spec.id ++ " is already running")), runner),
        memory) := by
  have hreserve : (reserve spec.id).runOn machine runner memory
      = ((Outcome.failed (.ofText ("service " ++ spec.id ++ " is already running")), runner),
        memory) := by
    unfold reserve
    rw [Action.runOn_bind_ok Action.runOn_state, if_pos hrecorded]
    rfl
  exact Action.runOn_bind_error hreserve

/-- **Both commands of a stop** were issued, and succeeded. -/
def StoppedBy (runner : ContainerRunner) (service : String) (grace : Duration)
    (commands : List Issued) : Prop :=
  ∃ container limit stopped removed, runner.container? service = some container
    ∧ grace.plus runner.limits.remove = .ok limit
    ∧ commands = [(["stop", "-t", toString grace.seconds, container.name], stopped),
      (["rm", "-f", container.name], removed)]
    ∧ CommandRun.Succeeds limit stopped ∧ CommandRun.Succeeds runner.limits.remove removed

/-- **A stop** ends well if and only if both of its commands succeed, and
otherwise leaves the record in place. -/
theorem Stopping.kept {service : String} {grace : Duration} {outcome : Outcome ServiceError Unit}
    (h : Stopping runner service grace commands outcome left) :
    (outcome = .ok () ↔ runner.StoppedBy service grace commands)
      ∧ (outcome ≠ .ok () → left = runner) := by
  cases h with
  | unknown new cause =>
    refine ⟨iff_of_false nofun ?_, fun _ => rfl⟩
    rintro ⟨_, _, _, _, -, -, hnever, -⟩
    cases hnever
  | endless container found cause limit_eq =>
    refine ⟨iff_of_false nofun ?_, fun _ => rfl⟩
    rintro ⟨_, _, _, _, -, -, hnever, -⟩
    cases hnever
  | notStopped container found limit limit_eq reply fails cause =>
    refine ⟨iff_of_false nofun ?_, fun _ => rfl⟩
    rintro ⟨_, _, _, _, -, -, hnever, -⟩
    cases (List.cons.inj hnever).2
  | notRemoved container found limit limit_eq stopped stops reply fails cause =>
    refine ⟨iff_of_false nofun ?_, fun _ => rfl⟩
    rintro ⟨_, _, _, removed, -, -, hcommands, -, hsucceeds⟩
    have hlast := List.head_eq_of_cons_eq (List.tail_eq_of_cons_eq hcommands)
    obtain rfl : reply = removed := (Prod.mk.inj hlast).2
    exact fails hsucceeds
  | removed container found limit limit_eq stopped stops reply succeeds =>
    exact ⟨iff_of_true rfl
      ⟨container, limit, stopped, reply, found, limit_eq, rfl, stops, succeeds⟩, (absurd rfl ·)⟩

/-- **The books are right after every call**, whatever the machine answers. A
service is on record if and only if it is running by its calls. The containers
on record have names of their own and addresses of their own, and no address
was passed to two containers. A service on record is not started again: that
asks the machine nothing and takes no address. A service that is not stopped by
both of its commands stays on record. -/
theorem serve_books (machine : Proc.Handler Host σ) (env : Environment) (project : String) (s : σ)
    {memory : σ × List (Proc.Entry Host)}
    (hcreated : (create env project).runOn (Proc.journaled machine) (s, []) = (.ok runner, memory))
    (calls : List RunnerCall) :
    let served := serve (Proc.journaled machine) calls runner memory
    let next (call : RunnerCall) :=
      call.action.runOn (Proc.journaled machine) served.runner served.memory
    (∀ service, (served.runner.container? service).isSome = true
        ↔ RunningAfter served.history service)
      ∧ (served.runner.containers.map Container.name).Nodup
      ∧ (served.runner.containers.map Container.ip).Nodup
      ∧ (issued served.memory.2).Pairwise (fun a b => ∀ ip, a.Passes ip → ¬ b.Passes ip)
      ∧ (∀ spec, (served.runner.container? spec.id).isSome = true →
        next (.start spec)
          = ((Outcome.failed (.ofText ("service " ++ spec.id ++ " is already running")),
            served.runner), served.memory))
      ∧ ∀ service grace, ∃ commands,
        issued (next (.stop service grace)).2.2 = issued served.memory.2 ++ commands
          ∧ ((next (.stop service grace)).1.1 = .ok ()
            ↔ served.runner.StoppedBy service grace commands)
          ∧ ((next (.stop service grace)).1.1 ≠ .ok () →
            (next (.stop service grace)).1.2 = served.runner) := by
  intro served next
  obtain ⟨limits, hcreating⟩ := creating_runOn machine env project s
  rw [hcreated] at hcreating
  obtain ⟨hrecorded, htold, hpassed⟩ := hcreating.books
  have hbooks : Recorded served.history served.runner ∧ Told served.runner
      ∧ PassedOnce (issued served.memory.2) served.runner :=
    @serve_keeps σ (fun history commands runner =>
        Recorded history runner ∧ Told runner ∧ PassedOnce commands runner)
      (fun h heffect => ⟨h.1.call heffect, h.2.1.call heffect, h.2.2.call heffect⟩)
      machine calls runner memory [] ⟨hrecorded, htold, hpassed⟩
  obtain ⟨hrecorded, htold, hpassed⟩ := hbooks
  refine ⟨hrecorded, htold.nodup_names, htold.ips, hpassed.once, fun spec hspec => ?_,
    fun service grace => ?_⟩
  · exact Action.runOn_bind_error (runOn_start_recorded _ hspec _)
  · obtain ⟨journal, hwritten, hjournal⟩ :=
      Action.journals_runOn machine (stop service grace) served.runner served.memory.1
        served.memory.2
    refine ⟨issued journal, ?_, (stopping_stop hjournal).kept⟩
    exact (congrArg issued hwritten).trans (issued_append _ _)

/-- A machine on which no container is removed, and none runs at the first
address. The service is started at the second one, and stays on record when it
is stopped. -/
theorem serve_books_unreliable :
    let machine : Proc.Handler Host Unit := fun op _ => match op with
      | .docker args =>
        let code := if args.head? = some "rm" ∨ "172.28.0.2" ∈ args then 1 else 0
        (.ok ⟨.zero, .exited code, [], []⟩, ())
      | .newDirectory stem => (.ok ("/tmp/" ++ stem), ())
      | .makeDirectories _ => (.ok (), ())
      | .write _ _ => (.ok (), ())
      | .removeTree _ => ((), ())
    let spec : ServiceSpec := ⟨"a", "node:test", [], fun _ _ => []⟩
    ∃ runner memory,
      (create .empty "p").runOn (Proc.journaled machine) ((), []) = (.ok runner, memory)
        ∧ RunningAfter (serve (Proc.journaled machine)
          [.start spec, .start spec, .stop "a" .zero] runner memory).history "a" := by
  intro machine spec
  refine ⟨_, _, rfl, ?_⟩
  have hbooks := serve_books machine .empty "p" () rfl [.start spec, .start spec, .stop "a" .zero]
  exact (hbooks.1 "a").1 (by decide)

end ContainerRunner

end LedgerNet
