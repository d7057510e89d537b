import LedgerNet.Proofs.Container.Bookkeeping

/-!
# What a run clears away

A run ends with a clean-up, which removes every container on record and the
network of the run. It is to leave nothing behind, whatever has gone wrong
before, and whatever goes wrong in the clean-up itself.

The clean-up does its part: which commands it issues depends on the runner and
on nothing that the machine answers (`journals_cleanUp`). But it knows of a
container only if the command that ran it has succeeded, and of a network only
if the set-up has succeeded in all. A container whose command failed, or took
too long, may be there as well, and is never removed. A network is left behind
if there is no workspace for the run. What is cleared away is said by
`lifetime_clears`, and what is not by `lifetime_leaves`.
-/

namespace LedgerNet

variable {σ : Type}

/-- **A command makes a container** with a name. -/
def Issued.Runs (limits : CommandLimits) (name : String) (command : Issued) : Prop :=
  (∃ rest, command.1 = "run" :: "-d" :: "--name" :: name :: rest)
    ∧ CommandRun.Succeeds limits.run command.2

/-- **A command removes a container** with a name. -/
def Issued.Removes (limits : CommandLimits) (name : String) (command : Issued) : Prop :=
  command.1 = ["rm", "-f", name] ∧ CommandRun.Succeeds limits.remove command.2

/-- **A container is standing**: a command has made it, and none has removed it
since. -/
def Standing (limits : CommandLimits) (name : String) (commands : List Issued) : Prop :=
  Stands (Issued.Runs limits name) (Issued.Removes limits name) commands

namespace ContainerRunner

variable {runner left : ContainerRunner} {commands more : List Issued}
  {journal : List (Proc.Entry Host)}

/-! ## What is held -/

/-- The command that runs the container of a service makes that container. -/
theorem runs_runCommand {spec : ServiceSpec} {ip : Ipv4} {reply : Except FileError CommandRun}
    {limits : CommandLimits} {name : String} :
    Issued.Runs limits name (runner.runCommand spec ip, reply)
      ↔ runner.containerName spec.id = name ∧ CommandRun.Succeeds limits.run reply := by
  refine and_congr_left' ?_
  unfold runCommand runArgs
  simp only [List.cons_append, List.cons.injEq, true_and, exists_and_left, exists_eq', and_true]

/-- **The runner holds every container that is standing**, and no other one. -/
def Held (commands : List Issued) (runner : ContainerRunner) : Prop :=
  ∀ name, (∃ container ∈ runner.containers, container.name = name)
    ↔ Standing runner.limits name commands

/-- Commands that neither make a container nor remove one change nothing. -/
theorem standing_append_of_idle {limits : CommandLimits} {name : String}
    (hruns : ∀ command ∈ more, ¬ Issued.Runs limits name command)
    (hremoves : ∀ command ∈ more, ¬ Issued.Removes limits name command) :
    Standing limits name (commands ++ more) ↔ Standing limits name commands := by
  unfold Standing
  rw [stands_append]
  constructor
  · rintro (⟨before, command, after, rfl, hmakes, -⟩ | ⟨hstands, -⟩)
    · exact absurd hmakes (hruns command (by simp))
    · exact hstands
  · exact fun hstands => Or.inr ⟨hstands, hremoves⟩

/-- With a container of a service, its name goes off the record and no other
name does. -/
theorem Told.exists_name_forget (h : Told runner) {service name : String} {container : Container}
    (hfound : runner.container? service = some container) :
    (∃ other ∈ (runner.forget service).containers, other.name = name)
      ↔ (∃ other ∈ runner.containers, other.name = name) ∧ container.name ≠ name := by
  -- a name tells its service, so the one that is forgotten is the only one of that name
  have hservice : container.service = service := by simpa using List.find?_some hfound
  have hname := h.named container (List.mem_of_find?_eq_some hfound)
  simp only [mem_forget]
  constructor
  · rintro ⟨other, ⟨hmem, hother⟩, rfl⟩
    refine ⟨⟨other, hmem, rfl⟩, fun heq => hother ?_⟩
    rw [hname, h.named other hmem] at heq
    rw [← hservice]
    exact (runner.containerName_injective heq).symm
  · rintro ⟨⟨other, hmem, rfl⟩, hne⟩
    refine ⟨other, ⟨hmem, fun hother => hne ?_⟩, rfl⟩
    rw [hname, h.named other hmem, hservice, hother]

/-- **Every call keeps hold of the containers.** -/
theorem Held.call (h : Held commands runner) (htold : Told runner) {call : RunnerCall}
    {outcome : Outcome ServiceError Unit} (heffect : call.Effect runner more outcome left) :
    Held (commands ++ more) left := by
  cases heffect with
  | idle call commands outcome fails runs removes =>
    intro name
    rw [h name, standing_append_of_idle]
    · rintro command hmem ⟨⟨rest, hrun⟩, -⟩
      exact runs command hmem (by rw [hrun]; rfl)
    · rintro command hmem ⟨hremove, hsucceeds⟩
      exact removes command hmem name hremove hsucceeds
  | spent spec commands outcome fails ip pool take_eq runs =>
    intro name
    rcases runs with rfl | ⟨reply, hfails, rfl⟩
    · rw [List.append_nil]
      exact h name
    · rw [standing_append_of_idle]
      · exact h name
      · exact List.forall_mem_singleton.2 fun hruns => hfails (runs_runCommand.1 hruns).2
      · refine List.forall_mem_singleton.2 ?_
        exact fun hremoves => absurd (List.head_eq_of_cons_eq hremoves.1) (by decide)
  | started spec new ip pool take_eq reply succeeds =>
    intro name
    have hothers : ∀ other ∈ ({ runner with pool } : ContainerRunner).containers,
        other.service ≠ spec.id := ne_of_new new
    have hkept : ¬ Issued.Removes runner.limits name (runner.runCommand spec ip, reply) :=
      fun hremoves => absurd (List.head_eq_of_cons_eq hremoves.1) (by decide)
    show _ ↔ Standing runner.limits name _
    unfold Standing
    rw [stands_concat, runs_runCommand, and_iff_left succeeds, and_iff_left hkept,
      exists_mem_record hothers]
    exact or_congr_right (h name)
  | stopped service grace container found reply removal succeeds =>
    intro name
    have hstop : ¬ Issued.Runs runner.limits name
          (["stop", "-t", toString grace.seconds, container.name], reply)
        ∧ ¬ Issued.Removes runner.limits name
          (["stop", "-t", toString grace.seconds, container.name], reply) := by
      simp [Issued.Runs, Issued.Removes]
    have hremove : ¬ Issued.Runs runner.limits name (["rm", "-f", container.name], removal)
        ∧ (Issued.Removes runner.limits name (["rm", "-f", container.name], removal)
          ↔ container.name = name) := by
      simp [Issued.Runs, Issued.Removes, succeeds]
    show _ ↔ Standing runner.limits name _
    unfold Standing
    rw [List.append_cons, stands_concat, stands_concat, or_iff_right hstop.1,
      and_iff_left hstop.2, or_iff_right hremove.1, hremove.2,
      htold.exists_name_forget found]
    exact and_congr_left' (h name)

/-! ## The clean-up -/

/-- A command whose failure is no matter, and what comes after it. -/
theorem journals_attempted_bind {args : List String} {limit : Duration} {name : String}
    {next : Outcome CommandError String → RunnerAction Unit} {outcome : Outcome ServiceError Unit}
    (h : ((Action.lift (Host.docker args limit name)).outcome >>= next).Journals runner journal
      outcome left) :
    ∃ reply ended after, issued journal = (args, reply) :: issued after
      ∧ (next ended).Journals runner after outcome left := by
  obtain ⟨cause, hnever, -⟩ | ⟨ended, between, before, after, rfl, hasked, hnext⟩ :=
    Action.journals_bind.1 h
  · obtain ⟨_, -, hnever⟩ := Action.journals_outcome.1 hnever
    cases hnever
  · obtain ⟨_, hlift, heq⟩ := Action.journals_outcome.1 hasked
    obtain ⟨rfl, hdocker⟩ := Action.journals_lift.1 hlift
    obtain ⟨reply, rfl, -⟩ := Host.journals_docker.1 hdocker
    exact ⟨reply, ended, after, rfl, hnext⟩

/-- What removes a container. -/
def removal (container : Container) : List String := ["rm", "-f", container.name]

/-- Every container is to be removed, whatever becomes of the others. -/
theorem journals_removeAll {limit : Duration} {containers : List Container}
    {outcome : Outcome ServiceError Unit}
    (h : (removeAll limit containers).Journals runner journal outcome left) :
    (issued journal).map Prod.fst = containers.map removal ∧ outcome = .ok () ∧ left = runner := by
  induction containers generalizing journal with
  | nil =>
    obtain ⟨rfl, rfl, rfl⟩ := Action.journals_pure.1 h
    exact ⟨rfl, rfl, rfl⟩
  | cons container rest ih =>
    obtain ⟨reply, ended, after, hissued, hrest⟩ := journals_attempted_bind h
    obtain ⟨hremovals, hended⟩ := ih hrest
    rw [hissued, List.map_cons, List.map_cons, hremovals]
    exact ⟨rfl, hended⟩

/-- **What the clean-up issues.** -/
def clearing (runner : ContainerRunner) : List (List String) :=
  runner.containers.map removal
    ++ if runner.ownsNetwork then [["network", "rm", runner.network]] else []

/-- It removes containers and networks, and nothing else. -/
theorem removes_of_mem_clearing {args : List String} (h : args ∈ runner.clearing) :
    (∃ name, args = ["rm", "-f", name]) ∨ ∃ network, args = ["network", "rm", network] := by
  unfold clearing at h
  rcases List.mem_append.1 h with hremoval | hnetwork
  · obtain ⟨container, -, rfl⟩ := List.mem_map.1 hremoval
    exact Or.inl ⟨container.name, rfl⟩
  · split at hnetwork
    · exact Or.inr ⟨runner.network, List.mem_singleton.1 hnetwork⟩
    · cases hnetwork

theorem removal_mem_clearing {name : String} :
    ["rm", "-f", name] ∈ runner.clearing
      ↔ ∃ container ∈ runner.containers, container.name = name := by
  unfold clearing removal
  rw [List.mem_append, or_iff_left]
  · simp
  · split <;> simp

theorem network_mem_clearing {network : String} :
    ["network", "rm", network] ∈ runner.clearing
      ↔ runner.ownsNetwork = true ∧ network = runner.network := by
  unfold clearing removal
  rw [List.mem_append, or_iff_right]
  · simp
  · simp

/-- The clean-up ends without a command. -/
theorem issued_removeTree {f : ContainerRunner → ContainerRunner} {root : String}
    {outcome : Outcome ServiceError Unit}
    (h : (Action.change f >>= fun _ =>
      Action.request (Proc.ask (HostOp.removeTree root) Proc.done) : RunnerAction Unit).Journals
        runner journal outcome left) :
    issued journal = [] := by
  rw [Action.journals_change_bind] at h
  obtain ⟨-, hasked⟩ := Action.journals_lift.1 h
  obtain ⟨_, ⟨_, _, rfl, rfl, -⟩, -⟩ := Attempt.journals_ofProc.1 hasked
  rfl

/-- **The clean-up** issues the same commands whatever the machine answers. -/
theorem journals_cleanUp {outcome : Outcome ServiceError Unit}
    (h : (cleanUp false).Journals runner journal outcome left) :
    (issued journal).map Prod.fst = runner.clearing := by
  unfold cleanUp at h
  rw [Action.journals_state_bind, if_neg Bool.false_ne_true] at h
  obtain ⟨cause, hremove, -⟩ | ⟨_, between, before, after, rfl, hremove, hrest⟩ :=
    Action.journals_bind.1 h
  · cases (journals_removeAll hremove).2.1
  obtain ⟨hremovals, -, rfl⟩ := journals_removeAll hremove
  unfold clearing
  rw [issued_append, List.map_append, hremovals]
  refine congrArg _ ?_
  dsimp only at hrest
  split at hrest
  · rename_i howns
    obtain ⟨reply, ended, last, hissued, hlast⟩ := journals_attempted_bind hrest
    rw [hissued, List.map_cons, issued_removeTree hlast, if_pos howns]
    rfl
  · rename_i hgiven
    rw [issued_removeTree hrest, if_neg hgiven]
    rfl

/-! ## A run from its set-up to its end -/

/-- **A run from its set-up to its end.** A run that is not set up has come to
its end with that. -/
def lifetime (machine : Proc.Handler Host σ) (env : Environment) (project : String)
    (calls : List RunnerCall) (memory : σ) : σ :=
  match (create env project).runOn machine memory with
  | (.error _, memory) => memory
  | (.ok runner, memory) =>
    let served := serve machine calls runner memory
    ((cleanUp env.preserves).runOn machine served.runner served.memory).2

section Lifetime

variable {machine : Proc.Handler Host σ} {env : Environment} {project : String}
  {memory after : σ} (calls : List RunnerCall)

theorem lifetime_of_error {cause : Failure ServiceError}
    (h : (create env project).runOn machine memory = (.error cause, after)) :
    lifetime machine env project calls memory = after := by
  unfold lifetime
  rw [h]

theorem lifetime_of_ok (h : (create env project).runOn machine memory = (.ok runner, after)) :
    lifetime machine env project calls memory
      = ((cleanUp env.preserves).runOn machine (serve machine calls runner after).runner
        (serve machine calls runner after).memory).2 := by
  unfold lifetime
  rw [h]

end Lifetime

/-- A runner owns the network that its set-up made, and no other one. -/
theorem Creating.owns_iff {env : Environment} {project : String} {limits : CommandLimits}
    (h : Creating env project limits commands (.ok runner)) {network : String} :
    runner.ownsNetwork = true ∧ network = runner.network
      ↔ ∃ subnet, networkArgs subnet network ∈ commands.map Prod.fst := by
  cases h with
  | created answer answers subnet subnet_eq making given owns networking root =>
    cases networking with
    | given given given_eq => simp [networkArgs]
    | made unset reply succeeds => simp [networkArgs]

/-- A new runner has nothing to hold. -/
theorem Creating.held {env : Environment} {project : String} {limits : CommandLimits}
    (h : Creating env project limits commands (.ok runner)) : Held commands runner := by
  have hrecorded : runner.containers = [] := by
    cases h
    rfl
  have hneither : ∀ name, ∀ command ∈ commands, ¬ Issued.Runs runner.limits name command
      ∧ ¬ Issued.Removes runner.limits name command := by
    intro name command hmem
    rcases h.asks command hmem with hasked | ⟨subnet, network, hasked⟩
    · simp [Issued.Runs, Issued.Removes, hasked]
    · simp [Issued.Runs, Issued.Removes, hasked, networkArgs]
  intro name
  have hstands := @standing_append_of_idle [] commands runner.limits name
    (fun command hmem => (hneither name command hmem).1)
    (fun command hmem => (hneither name command hmem).2)
  rw [List.nil_append] at hstands
  rw [hstands, hrecorded]
  exact iff_of_false (by simp) not_stands_nil

/-- **After any calls** the runner holds the containers that are standing. Its
network is the one that it was set up with. -/
theorem Creating.held_serve {machine : Proc.Handler Host σ} {env : Environment} {project : String}
    {limits : CommandLimits} {memory : σ × List (Proc.Entry Host)}
    (h : Creating env project limits (issued memory.2) (.ok runner)) (calls : List RunnerCall) :
    let served := serve (Proc.journaled machine) calls runner memory
    Held (issued served.memory.2) served.runner
      ∧ served.runner = { runner with pool := served.runner.pool
                                      containers := served.runner.containers } := by
  obtain ⟨-, htold, -⟩ := h.books
  have hkept := @serve_keeps σ
    (fun _ commands now => Told now ∧ Held commands now
      ∧ now = { runner with pool := now.pool, containers := now.containers })
    (fun h heffect => ⟨h.1.call heffect, h.2.1.call h.1 heffect, by rw [heffect.setting, h.2.2]⟩)
    machine calls runner memory [] ⟨htold, h.held, rfl⟩
  exact hkept.2

/-- **What a run clears away.** If the set-up fails, nothing is removed.
Otherwise the clean-up removes every container that is standing by then, and
the network if the set-up made it. It issues all of these commands whatever
becomes of each, and no other ones. -/
theorem lifetime_clears (machine : Proc.Handler Host σ) (env : Environment) (project : String)
    (calls : List RunnerCall) (s : σ) (hunset : env.preserves = false) :
    let created := (create env project).runOn (Proc.journaled machine) (s, [])
    let commands := issued (lifetime (Proc.journaled machine) env project calls (s, [])).2
    (∀ cause, created.1 = .error cause → ∀ command ∈ commands, command.1 = ["info"]
        ∨ ∃ subnet network, command.1 = networkArgs subnet network)
      ∧ ∀ runner, created.1 = .ok runner →
        let served := serve (Proc.journaled machine) calls runner created.2
        ∃ clearing, commands = issued served.memory.2 ++ clearing
          ∧ (∀ args ∈ clearing.map Prod.fst, (∃ name, args = ["rm", "-f", name])
            ∨ ∃ network, args = ["network", "rm", network])
          ∧ (∀ name, ["rm", "-f", name] ∈ clearing.map Prod.fst
            ↔ Standing runner.limits name (issued served.memory.2))
          ∧ ∀ network, ["network", "rm", network] ∈ clearing.map Prod.fst
            ↔ ∃ subnet, networkArgs subnet network ∈ (issued created.2.2).map Prod.fst := by
  intro created commands
  obtain ⟨limits, hcreating⟩ := creating_runOn machine env project s
  constructor
  · intro cause hfailed
    have hended := lifetime_of_error calls (Prod.ext hfailed rfl : created = (_, created.2))
    unfold commands
    rw [hended]
    exact hcreating.asks
  · intro runner hready served
    have hended := lifetime_of_ok calls (Prod.ext hready rfl : created = (_, created.2))
    obtain ⟨journal, hcleaned, hcleaning⟩ :=
      Action.journals_runOn machine (cleanUp env.preserves) served.runner served.memory.1
        served.memory.2
    rw [hunset] at hcleaning
    -- which commands these are does not depend on the answers to any of them
    have hclearing := journals_cleanUp hcleaning
    rw [show ((create env project).runOn (Proc.journaled machine) (s, [])).1 = _ from hready]
      at hcreating
    obtain ⟨hheld, hsetting⟩ := hcreating.held_serve calls
    refine ⟨issued journal, ?_, ?_, fun name => ?_, fun network => ?_⟩
    · unfold commands
      rw [hended, ← issued_append]
      exact congrArg issued hcleaned
    · rw [hclearing]
      exact fun args => removes_of_mem_clearing
    · rw [hclearing, removal_mem_clearing, hheld name, hsetting]
    · rw [hclearing, network_mem_clearing, hsetting]
      exact hcreating.owns_iff

/-- On a machine that removes nothing, all is to be removed as well. -/
theorem lifetime_clears_stubborn :
    let machine : Proc.Handler Host Unit := fun op _ => match op with
      | .docker args => (.ok ⟨.zero, .exited (if "rm" ∈ args then 1 else 0), [], []⟩, ())
      | .newDirectory stem => (.ok ("/tmp/" ++ stem), ())
      | .makeDirectories _ => (.ok (), ())
      | .write _ _ => (.ok (), ())
      | .removeTree _ => ((), ())
    let ended := lifetime (Proc.journaled machine) .empty "p"
      [.start ⟨"a", "node:test", [], fun _ _ => []⟩] ((), [])
    Environment.empty.preserves = false ∧ ["rm", "-f", "p-a"] ∈ (issued ended.2).map Prod.fst
      ∧ ["network", "rm", "p-net"] ∈ (issued ended.2).map Prod.fst := by
  intro machine ended
  obtain ⟨clearing, hcommands, -, hremoves, hnetwork⟩ :=
    (lifetime_clears machine .empty "p" [.start ⟨"a", "node:test", [], fun _ _ => []⟩] () rfl).2
      _ rfl
  rw [show issued ended.2 = _ from hcommands, List.map_append]
  refine ⟨rfl, List.mem_append_right _ ((hremoves "p-a").2 ?_),
    List.mem_append_right _ ((hnetwork "p-net").2 ⟨Subnet.usual, by decide⟩)⟩
  let quiet : Except FileError CommandRun := .ok .quiet
  let run := runArgs "p-a" "p-net" (Subnet.usual.address 2) "/tmp/ledger-testnet-/a" "node:test" []
  exact ⟨[(["info"], quiet), (networkArgs .usual "p-net", quiet)], (run, quiet), [], rfl,
    ⟨⟨_, rfl⟩, _, rfl, by decide, rfl⟩, nofun⟩

/-- **What is left behind.** A container whose command has failed is not
removed, and neither is a network that was made for a run without a workspace. -/
theorem lifetime_leaves :
    let machine (workspace : Except FileError String) : Proc.Handler Host Unit := fun op _ =>
      match op with
      | .docker args =>
        let code := if args.head? = some "run" then 127 else 0
        (.ok ⟨.zero, .exited code, [], []⟩, ())
      | .newDirectory _ => (workspace, ())
      | .makeDirectories _ => (.ok (), ())
      | .write _ _ => (.ok (), ())
      | .removeTree _ => ((), ())
    let commands (workspace : Except FileError String) := (issued (lifetime
      (Proc.journaled (machine workspace)) .empty "p"
      [.start ⟨"a", "node:test", [], fun _ _ => []⟩] ((), [])).2).map Prod.fst
    (∃ command ∈ commands (.ok "/tmp/run"), command.take 4 = ["run", "-d", "--name", "p-a"])
      ∧ ["rm", "-f", "p-a"] ∉ commands (.ok "/tmp/run")
      ∧ networkArgs .usual "p-net" ∈ commands (.error .permissionDenied)
      ∧ ["network", "rm", "p-net"] ∉ commands (.error .permissionDenied) := by
  decide

end ContainerRunner

end LedgerNet
