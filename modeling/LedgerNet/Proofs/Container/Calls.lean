import LedgerNet.Container.Runner
import LedgerNet.Proofs.Program.Journal

/-!
# What a call of a runner can do

A runner is set up, and then called again and again, to start a service or to
stop one. Every command of a call may succeed, fail or take too long. This
module says once what can become of the set-up and of a call: which commands
were issued, how it ended, and which runner is left (`Creating`, `Starting`,
`Stopping`). Whatever is to be kept by all calls is then a statement about
these cases, and holds after any number of calls (`serve_keeps`).

A journal holds everything that is asked of the machine. Of interest here are
the commands of the container tool, with what came of each.
-/

namespace LedgerNet

variable {σ ε α : Type}

/-! ## What stands -/

/-- **Something was done in a list of events, and has not been undone since.** -/
def Stands (does undoes : α → Prop) (events : List α) : Prop :=
  ∃ before event after, events = before ++ event :: after ∧ does event
    ∧ ∀ later ∈ after, ¬ undoes later

section Stands

variable {does undoes : α → Prop} {events more : List α} {event : α}

theorem not_stands_nil : ¬ Stands does undoes [] := by
  rintro ⟨before, event, after, hsplit, -⟩
  exact List.append_ne_nil_of_right_ne_nil before (List.cons_ne_nil event after) hsplit.symm

/-- What stands after some more events was done in them, or stood before and
was not undone in them. -/
theorem stands_append : Stands does undoes (events ++ more)
    ↔ Stands does undoes more ∨ Stands does undoes events ∧ ∀ later ∈ more, ¬ undoes later := by
  constructor
  · rintro ⟨before, event, after, hsplit, hdoes, hkept⟩
    rcases List.append_eq_append_iff.1 hsplit with ⟨between, rfl, rfl⟩ | ⟨between, rfl, hrest⟩
    · exact Or.inl ⟨between, event, after, rfl, hdoes, hkept⟩
    · cases between with
      | nil => exact Or.inl ⟨[], event, after, hrest.symm, hdoes, hkept⟩
      | cons first between =>
        obtain ⟨rfl, rfl⟩ := List.cons.inj hrest
        obtain ⟨hbetween, hmore⟩ := List.forall_mem_append.1 hkept
        exact Or.inr ⟨⟨before, event, between, rfl, hdoes, hbetween⟩, hmore⟩
  · rintro (⟨before, event, after, rfl, hdoes, hkept⟩ | ⟨⟨before, event, after, rfl, hdoes, hkept⟩,
      hmore⟩)
    · exact ⟨events ++ before, event, after, by simp, hdoes, hkept⟩
    · exact ⟨before, event, after ++ more, by simp, hdoes,
        List.forall_mem_append.2 ⟨hkept, hmore⟩⟩

theorem stands_singleton : Stands does undoes [event] ↔ does event := by
  constructor
  · rintro ⟨before, only, after, hsplit, hdoes, -⟩
    cases before with
    | nil => rwa [List.head_eq_of_cons_eq hsplit]
    | cons first before =>
      have hnil := List.tail_eq_of_cons_eq hsplit
      exact absurd hnil.symm
        (List.append_ne_nil_of_right_ne_nil before (List.cons_ne_nil only after))
  · exact fun hdoes => ⟨[], event, [], rfl, hdoes, nofun⟩

/-- What stands after one more event. -/
theorem stands_concat : Stands does undoes (events ++ [event])
    ↔ does event ∨ Stands does undoes events ∧ ¬ undoes event := by
  rw [stands_append, stands_singleton, List.forall_mem_singleton]

end Stands

/-! ## Commands -/

/-- **A command of the tool succeeds**: it ends well, and in time. -/
def CommandRun.Succeeds (limit : Duration) (reply : Except FileError CommandRun) : Prop :=
  ∃ run, reply = .ok run ∧ run.duration.nanos < limit.nanos ∧ run.status.isSuccess = true

/-- A command has a result if it succeeds, and otherwise fails for a cause. -/
theorem CommandRun.result_cases (command : String) (limit : Duration)
    (reply : Except FileError CommandRun) :
    (Succeeds limit reply ∧ ∃ printed, result command limit reply = .ok printed)
      ∨ (¬ Succeeds limit reply ∧ ∃ cause, result command limit reply = .error cause) := by
  cases reply with
  | error cause => exact Or.inr ⟨nofun, _, rfl⟩
  | ok run =>
    unfold result
    dsimp only
    split
    · rename_i hlate
      refine Or.inr ⟨?_, _, rfl⟩
      rintro ⟨_, heq, hintime, -⟩
      obtain rfl := Except.ok.inj heq
      exact absurd hlate (Nat.not_le_of_lt hintime)
    · rename_i hintime
      split
      · rename_i hwell
        exact Or.inl ⟨⟨run, rfl, Nat.lt_of_not_le hintime, hwell⟩, _, rfl⟩
      · rename_i hbadly
        refine Or.inr ⟨?_, _, rfl⟩
        rintro ⟨_, heq, -, hwell⟩
        obtain rfl := Except.ok.inj heq
        exact hbadly hwell

/-- **A command that was issued**: its arguments, and what came of it. -/
abbrev Issued := List String × Except FileError CommandRun

/-- The command in an entry of a journal, if it is one. -/
def Issued.ofEntry? : Proc.Entry Host → Option Issued
  | ⟨.docker args, reply⟩ => some (args, reply)
  | _ => none

/-- **The commands of a journal**, in their order. -/
def issued (journal : List (Proc.Entry Host)) : List Issued := journal.filterMap Issued.ofEntry?

theorem issued_append (journal later : List (Proc.Entry Host)) :
    issued (journal ++ later) = issued journal ++ issued later :=
  List.filterMap_append

namespace Host

variable {journal : List (Proc.Entry Host)}

/-- A command is one request. -/
theorem journals_docker {args : List String} {limit : Duration} {command : String}
    {outcome : Outcome CommandError String} :
    (docker args limit command).Journals journal outcome
      ↔ ∃ reply, journal = [⟨.docker args, reply⟩]
        ∧ outcome = (CommandRun.result command limit reply).mapError Failure.error := by
  unfold docker
  rw [Attempt.journals_request_bind]
  constructor
  · rintro ⟨reply, rest, rfl, rfl, rfl⟩
    exact ⟨reply, rfl, rfl⟩
  · rintro ⟨reply, rfl, rfl⟩
    exact ⟨reply, [], rfl, rfl, rfl⟩

/-- A command with its purpose succeeds or fails as the command does. -/
theorem journals_explained {args : List String} {limit : Duration} {command purpose : String}
    {outcome : Outcome ServiceError String}
    (h : ((docker args limit command).wrap (explain purpose)).Journals journal outcome) :
    ∃ reply, journal = [⟨.docker args, reply⟩]
      ∧ (CommandRun.Succeeds limit reply ∧ (∃ printed, outcome = .ok printed)
        ∨ ¬ CommandRun.Succeeds limit reply ∧ ∃ cause, outcome = Outcome.failed cause) := by
  obtain ⟨_, hdocker, rfl⟩ := Attempt.journals_wrap.1 h
  obtain ⟨reply, rfl, rfl⟩ := journals_docker.1 hdocker
  refine ⟨reply, rfl, ?_⟩
  rcases CommandRun.result_cases command limit reply with
    ⟨hsucceeds, printed, heq⟩ | ⟨hfails, cause, heq⟩
  · rw [heq]
    exact Or.inl ⟨hsucceeds, printed, rfl⟩
  · rw [heq]
    exact Or.inr ⟨hfails, explain purpose cause, rfl⟩

/-- The tool is asked once whether it answers. -/
theorem journals_available {limit : Duration} {answers : Bool}
    (h : (available limit).Journals journal answers) :
    ∃ reply, journal = [⟨.docker ["info"], reply⟩]
      ∧ (answers = true ↔ CommandRun.Succeeds limit reply) := by
  obtain ⟨ended, before, after, rfl, hasked, rfl, rfl⟩ := Proc.journals_bind.1 h
  obtain ⟨reply, rfl, rfl⟩ := journals_docker.1 hasked
  refine ⟨reply, List.append_nil _, ?_⟩
  rcases CommandRun.result_cases "docker info" limit reply with
    ⟨hsucceeds, printed, heq⟩ | ⟨hfails, cause, heq⟩
  · rw [heq]
    exact iff_of_true rfl hsucceeds
  · rw [heq]
    exact iff_of_false nofun hfails

/-- A request about files asks what the request asks. -/
theorem journals_filing {purpose : String} {request : Proc Host (Except FileError α)}
    {outcome : Outcome ServiceError α} (h : (filing purpose request).Journals journal outcome) :
    ∃ answer, request.Journals journal answer
      ∧ outcome = (answer.mapError fun cause => ⟨purpose, [cause.message]⟩).mapError .error := by
  obtain ⟨cause, hasked, -⟩ | ⟨answer, before, after, rfl, hasked, rfl, rfl⟩ :=
    Attempt.journals_bind.1 h
  · obtain ⟨answer, -, hnever⟩ := Attempt.journals_ofProc.1 hasked
    cases hnever
  · obtain ⟨_, hrequest, heq⟩ := Attempt.journals_ofProc.1 hasked
    obtain rfl := Except.ok.inj heq
    exact ⟨answer, by rwa [List.append_nil], rfl⟩

end Host

/-! ## The workspace -/

namespace Workspace

variable {directory : String} {files : List (String × String)} {journal : List (Proc.Entry Host)}
  {outcome : Outcome ServiceError Unit}

/-- The workspace is made without a command. -/
theorem issued_newDirectory {α : Type} {purpose stem : String} {ready : String → α}
    {outcome : Outcome ServiceError α}
    (h : (Host.filing purpose (Proc.ask (HostOp.newDirectory stem) Proc.done) >>= fun root =>
      pure (ready root)).Journals journal outcome) :
    issued journal = []
      ∧ ((∃ cause, outcome = .error cause) ∨ ∃ root, outcome = .ok (ready root)) := by
  obtain ⟨cause, hmake, rfl⟩ | ⟨root, before, after, rfl, hmake, rfl, rfl⟩ :=
    Attempt.journals_bind.1 h
  · obtain ⟨_, ⟨_, _, rfl, rfl, -⟩, -⟩ := Host.journals_filing hmake
    exact ⟨rfl, Or.inl ⟨cause, rfl⟩⟩
  · obtain ⟨_, ⟨_, _, rfl, rfl, -⟩, -⟩ := Host.journals_filing hmake
    exact ⟨rfl, Or.inr ⟨root, rfl⟩⟩

/-- Files are written without a command. -/
theorem issued_writeFiles (h : (writeFiles directory files).Journals journal outcome) :
    issued journal = [] := by
  induction files generalizing journal with
  | nil =>
    obtain ⟨rfl, -⟩ := Attempt.journals_ofOutcome.1 h
    rfl
  | cons file rest ih =>
    obtain ⟨cause, hwrite, -⟩ | ⟨value, before, after, rfl, hwrite, hrest⟩ :=
      Attempt.journals_bind.1 h
    · obtain ⟨_, ⟨_, _, rfl, rfl, -⟩, -⟩ := Host.journals_filing hwrite
      rfl
    · obtain ⟨_, ⟨_, _, rfl, rfl, -⟩, -⟩ := Host.journals_filing hwrite
      rw [issued_append, ih hrest]
      rfl

/-- The directory of a service is made without a command. -/
theorem issued_materialise (h : (materialise directory files).Journals journal outcome) :
    issued journal = [] := by
  obtain ⟨cause, hmake, -⟩ | ⟨value, before, after, rfl, hmake, hwrite⟩ :=
    Attempt.journals_bind.1 h
  · obtain ⟨_, ⟨_, _, rfl, rfl, -⟩, -⟩ := Host.journals_filing hmake
    rfl
  · obtain ⟨_, ⟨_, _, rfl, rfl, -⟩, -⟩ := Host.journals_filing hmake
    rw [issued_append, issued_writeFiles hwrite]
    rfl

end Workspace

/-! ## Setting up -/

/-- There are limits on every machine. -/
theorem Environment.exists_commandLimits (env : Environment) :
    ∃ limits, env.commandLimits = .ok limits := by
  unfold commandLimits stretched
  cases env.isSlow <;> exact ⟨_, rfl⟩

namespace ContainerRunner

section Creating

variable {env : Environment} {project : String} {limits : CommandLimits} {subnet : Subnet}
  {journal : List (Proc.Entry Host)}

/-- The command that makes a network. -/
def networkArgs (subnet : Subnet) (network : String) : List String :=
  ["network", "create", "--driver", "bridge", "--subnet", subnet.text, network]

/-- **The network of a run is there**: somebody else has made it, or the
command that makes it has succeeded. -/
inductive Networking (env : Environment) (project : String) (limits : CommandLimits)
    (subnet : Subnet) : List Issued → String → Bool → Prop where
  | given (network : String) (given_eq : env.dockerNetwork? = some network) :
    Networking env project limits subnet [] network false
  | made (unset : env.dockerNetwork? = none) (reply : Except FileError CommandRun)
    (succeeds : CommandRun.Succeeds limits.network reply) :
    Networking env project limits subnet [(networkArgs subnet (project ++ "-net"), reply)]
      (project ++ "-net") true

/-- **What can become of the set-up** of a run: the tool does not answer, the
addresses of its subnet cannot be counted, its network or its workspace is not
made, or it is ready. -/
inductive Creating (env : Environment) (project : String) (limits : CommandLimits) :
    List Issued → Outcome ServiceError ContainerRunner → Prop where
  | unavailable (answer : Except FileError CommandRun)
    (fails : ¬ CommandRun.Succeeds limits.info answer) (cause : ServiceError) :
    Creating env project limits [(["info"], answer)] (Outcome.failed cause)
  | uncounted (answer : Except FileError CommandRun)
    (answers : CommandRun.Succeeds limits.info answer) (cause : Overflow)
    (subnet_eq : Subnet.ofEnvironment env = .error cause) :
    Creating env project limits [(["info"], answer)] (Outcome.crashed (.overflow cause))
  | notMade (answer : Except FileError CommandRun)
    (answers : CommandRun.Succeeds limits.info answer) (subnet : Subnet)
    (subnet_eq : Subnet.ofEnvironment env = .ok subnet) (unset : env.dockerNetwork? = none)
    (reply : Except FileError CommandRun) (fails : ¬ CommandRun.Succeeds limits.network reply)
    (cause : ServiceError) :
    Creating env project limits
      [(["info"], answer), (networkArgs subnet (project ++ "-net"), reply)] (Outcome.failed cause)
  | homeless (answer : Except FileError CommandRun)
    (answers : CommandRun.Succeeds limits.info answer) (subnet : Subnet)
    (subnet_eq : Subnet.ofEnvironment env = .ok subnet) (making : List Issued)
    (network : String) (owns : Bool)
    (networking : Networking env project limits subnet making network owns)
    (cause : Failure ServiceError) :
    Creating env project limits ((["info"], answer) :: making) (.error cause)
  | created (answer : Except FileError CommandRun)
    (answers : CommandRun.Succeeds limits.info answer) (subnet : Subnet)
    (subnet_eq : Subnet.ofEnvironment env = .ok subnet) (making : List Issued)
    (network : String) (owns : Bool)
    (networking : Networking env project limits subnet making network owns) (root : String) :
    Creating env project limits ((["info"], answer) :: making)
      (.ok ⟨project, network, owns, root, limits, .ofSubnet subnet, []⟩)

/-- A set-up asks about the tool, and makes a network. -/
theorem Creating.asks {commands : List Issued} {outcome : Outcome ServiceError ContainerRunner}
    (h : Creating env project limits commands outcome) :
    ∀ command ∈ commands, command.1 = ["info"]
      ∨ ∃ subnet network, command.1 = networkArgs subnet network := by
  have hnetworking : ∀ {subnet making network owns},
      Networking env project limits subnet making network owns →
      ∀ command ∈ making, ∃ subnet network, command.1 = networkArgs subnet network := by
    intro subnet making network owns hnetworking
    cases hnetworking with
    | given network given_eq => exact nofun
    | made unset reply succeeds => exact List.forall_mem_singleton.2 ⟨subnet, _, rfl⟩
  cases h with
  | unavailable answer fails cause => exact List.forall_mem_singleton.2 (Or.inl rfl)
  | uncounted answer answers cause subnet_eq => exact List.forall_mem_singleton.2 (Or.inl rfl)
  | notMade answer answers subnet subnet_eq unset reply fails cause =>
    exact List.forall_mem_cons.2
      ⟨Or.inl rfl, List.forall_mem_singleton.2 (Or.inr ⟨subnet, _, rfl⟩)⟩
  | homeless answer answers subnet subnet_eq making network owns networking cause =>
    exact List.forall_mem_cons.2
      ⟨Or.inl rfl, fun command hmem => Or.inr (hnetworking networking command hmem)⟩
  | created answer answers subnet subnet_eq making network owns networking root =>
    exact List.forall_mem_cons.2
      ⟨Or.inl rfl, fun command hmem => Or.inr (hnetworking networking command hmem)⟩

/-- The network is made by one command. -/
theorem journals_makeNetwork {network : String} {outcome : Outcome ServiceError Unit}
    (h : (makeNetwork limits subnet network).Journals journal outcome) :
    ∃ reply, journal = [⟨.docker (networkArgs subnet network), reply⟩]
      ∧ (CommandRun.Succeeds limits.network reply ∧ outcome = .ok ()
        ∨ ¬ CommandRun.Succeeds limits.network reply
          ∧ ∃ cause, outcome = Outcome.failed cause) := by
  obtain ⟨cause, hasked, rfl⟩ | ⟨printed, before, after, rfl, hasked, rfl, rfl⟩ :=
    Attempt.journals_bind.1 h
  · obtain ⟨reply, rfl, ⟨-, _, hnever⟩ | ⟨hfails, reason, heq⟩⟩ := Host.journals_explained hasked
    · cases hnever
    · exact ⟨reply, rfl, Or.inr ⟨hfails, reason, congrArg _ (Except.error.inj heq)⟩⟩
  · obtain ⟨reply, rfl, ⟨hsucceeds, -⟩ | ⟨-, _, hnever⟩⟩ := Host.journals_explained hasked
    · exact ⟨reply, rfl, Or.inl ⟨hsucceeds, rfl⟩⟩
    · cases hnever

/-- With its network there, a run is ready when it has a workspace. -/
theorem creating_last {answer : Except FileError CommandRun}
    (hanswers : CommandRun.Succeeds limits.info answer)
    (hsubnet : Subnet.ofEnvironment env = .ok subnet) {making : List Issued} {network : String}
    {owns : Bool} (hnetworking : Networking env project limits subnet making network owns)
    {purpose stem : String} {outcome : Outcome ServiceError ContainerRunner}
    (h : (Host.filing purpose (Proc.ask (HostOp.newDirectory stem) Proc.done) >>= fun root =>
      pure ⟨project, network, owns, root, limits, .ofSubnet subnet, []⟩).Journals journal outcome) :
    Creating env project limits ((["info"], answer) :: (making ++ issued journal)) outcome := by
  obtain ⟨hnone, ⟨cause, rfl⟩ | ⟨root, rfl⟩⟩ := Workspace.issued_newDirectory h
  · rw [hnone, List.append_nil]
    exact .homeless answer hanswers subnet hsubnet making network owns hnetworking cause
  · rw [hnone, List.append_nil]
    exact .created answer hanswers subnet hsubnet making network owns hnetworking root

/-- **The set-up**, whatever the machine answers. -/
theorem creating_create (hlimits : env.commandLimits = .ok limits)
    {outcome : Outcome ServiceError ContainerRunner}
    (h : (create env project).Journals journal outcome) :
    Creating env project limits (issued journal) outcome := by
  unfold create at h
  rw [hlimits, Attempt.journals_counted_bind] at h
  obtain ⟨answers, _, after, rfl, havailable, hready⟩ := Attempt.journals_ofProc_bind.1 h
  obtain ⟨answer, rfl, hanswers⟩ := Host.journals_available havailable
  rw [issued_append]
  split at hready
  · rename_i hanswer
    have hsucceeds := hanswers.1 hanswer
    cases hsubnet : Subnet.ofEnvironment env with
    | error cause =>
      rw [hsubnet, Attempt.journals_uncounted_bind] at hready
      obtain ⟨rfl, rfl⟩ := hready
      exact .uncounted answer hsucceeds cause hsubnet
    | ok subnet =>
      rw [hsubnet, Attempt.journals_counted_bind] at hready
      unfold networkOf at hready
      cases hnetwork : env.dockerNetwork? with
      | some network =>
        rw [hnetwork] at hready
        exact creating_last hsucceeds hsubnet (.given network hnetwork) hready
      | none =>
        rw [hnetwork] at hready
        obtain ⟨cause, hmake, rfl⟩ | ⟨_, before, after, rfl, hmake, hlast⟩ :=
          Attempt.journals_bind.1 hready
        · obtain ⟨reply, rfl, ⟨-, hnever⟩ | ⟨hfails, reason, heq⟩⟩ := journals_makeNetwork hmake
          · cases hnever
          · obtain rfl := Except.error.inj heq
            exact .notMade answer hsucceeds subnet hsubnet hnetwork reply hfails reason
        · obtain ⟨reply, rfl, ⟨hmade, -⟩ | ⟨-, _, hnever⟩⟩ := journals_makeNetwork hmake
          · rw [issued_append]
            exact creating_last hsucceeds hsubnet (.made hnetwork reply hmade) hlast
          · cases hnever
  · rename_i hsilent
    obtain ⟨rfl, rfl⟩ := Attempt.journals_ofOutcome.1 hready
    exact .unavailable answer (fun hsucceeds => hsilent (hanswers.2 hsucceeds)) _

/-- A run of the set-up is one of these. -/
theorem creating_runOn (machine : Proc.Handler Host σ) (env : Environment) (project : String)
    (s : σ) :
    ∃ limits, Creating env project limits
      (issued ((create env project).runOn (Proc.journaled machine) (s, [])).2.2)
      ((create env project).runOn (Proc.journaled machine) (s, [])).1 := by
  obtain ⟨limits, hlimits⟩ := env.exists_commandLimits
  obtain ⟨journal, hwritten, hjournal⟩ := Attempt.journals_runOn machine (create env project) s []
  rw [hwritten, List.nil_append]
  exact ⟨limits, creating_create hlimits hjournal⟩

end Creating

/-! ## One call -/

variable {runner left : ContainerRunner} {journal : List (Proc.Entry Host)} {spec : ServiceSpec}
  {service : String} {grace : Duration}

/-- **A command of a call**, and what comes after it: the command fails and so
does the call, or it succeeds and the call goes on. -/
theorem journals_command_bind {args : List String} {limit : Duration} {name purpose : String}
    {next : Unit → RunnerAction α} {outcome : Outcome ServiceError α}
    (h : (command args limit name purpose >>= next).Journals runner journal outcome left) :
    ∃ reply, (¬ CommandRun.Succeeds limit reply ∧ issued journal = [(args, reply)]
        ∧ (∃ cause, outcome = Outcome.failed cause) ∧ left = runner)
      ∨ (CommandRun.Succeeds limit reply ∧ ∃ after, issued journal = (args, reply) :: issued after
        ∧ (next ()).Journals runner after outcome left) := by
  unfold command at h
  rw [bind_assoc] at h
  obtain ⟨cause, hlift, rfl⟩ | ⟨printed, between, before, after, rfl, hlift, hnext⟩ :=
    Action.journals_bind.1 h
  · obtain ⟨rfl, hasked⟩ := Action.journals_lift.1 hlift
    obtain ⟨reply, rfl, ⟨-, _, hnever⟩ | ⟨hfails, reason, heq⟩⟩ := Host.journals_explained hasked
    · cases hnever
    · obtain rfl := Except.error.inj heq
      exact ⟨reply, Or.inl ⟨hfails, rfl, ⟨reason, rfl⟩, rfl⟩⟩
  · obtain ⟨rfl, hasked⟩ := Action.journals_lift.1 hlift
    obtain ⟨reply, rfl, ⟨hsucceeds, -⟩ | ⟨-, _, hnever⟩⟩ := Host.journals_explained hasked
    · rw [pure_bind] at hnext
      exact ⟨reply, Or.inr ⟨hsucceeds, after, rfl, hnext⟩⟩
    · cases hnever

/-- **What can become of the reservation** of an address. -/
inductive Reserving (runner : ContainerRunner) (service : String) :
    Outcome ServiceError Ipv4 → ContainerRunner → Prop where
  | running (recorded : (runner.container? service).isSome = true) (cause : ServiceError) :
    Reserving runner service (Outcome.failed cause) runner
  | exhausted (new : runner.container? service = none) (refusal : SubnetError)
    (spent : runner.pool.take = .error refusal) (cause : ServiceError) :
    Reserving runner service (Outcome.failed cause) runner
  | taken (new : runner.container? service = none) (ip : Ipv4) (pool : AddressPool)
    (take_eq : runner.pool.take = .ok (ip, pool)) :
    Reserving runner service (.ok ip) { runner with pool }

/-- The machine is not asked for an address. -/
theorem reserving_reserve {outcome : Outcome ServiceError Ipv4}
    (h : (reserve service).Journals runner journal outcome left) :
    journal = [] ∧ Reserving runner service outcome left := by
  unfold reserve at h
  rw [Action.journals_state_bind] at h
  split at h
  · rename_i hrecorded
    obtain ⟨rfl, rfl, rfl⟩ := Action.journals_fail.1 h
    exact ⟨rfl, .running hrecorded _⟩
  · rename_i hnew
    rw [Option.not_isSome_iff_eq_none] at hnew
    split at h
    · rename_i refusal hspent
      obtain ⟨rfl, rfl, rfl⟩ := Action.journals_fail.1 h
      exact ⟨rfl, .exhausted hnew refusal hspent _⟩
    · rename_i ip pool htake
      obtain ⟨rfl, rfl, rfl⟩ := h
      exact ⟨rfl, .taken hnew ip pool htake⟩

/-- The command that runs the container of a service at an address. -/
def runCommand (runner : ContainerRunner) (spec : ServiceSpec) (ip : Ipv4) : List String :=
  runArgs (runner.containerName spec.id) runner.network ip (Path.join runner.root spec.id)
    spec.image (spec.command (.v4 ip) (spec.mountsIn Conventions.volumeMountpoint))

/-- **What can become of a start**: the service is running, there is no
address, its directory is not made, its container does not run, or all goes
well. An address that was taken is gone in any case. -/
inductive Starting (runner : ContainerRunner) (spec : ServiceSpec) :
    List Issued → Outcome ServiceError Ip → ContainerRunner → Prop where
  | running (recorded : (runner.container? spec.id).isSome = true) (cause : ServiceError) :
    Starting runner spec [] (Outcome.failed cause) runner
  | exhausted (new : runner.container? spec.id = none) (refusal : SubnetError)
    (spent : runner.pool.take = .error refusal) (cause : ServiceError) :
    Starting runner spec [] (Outcome.failed cause) runner
  | unwritten (new : runner.container? spec.id = none) (ip : Ipv4) (pool : AddressPool)
    (take_eq : runner.pool.take = .ok (ip, pool)) (cause : Failure ServiceError) :
    Starting runner spec [] (.error cause) { runner with pool }
  | notRun (new : runner.container? spec.id = none) (ip : Ipv4) (pool : AddressPool)
    (take_eq : runner.pool.take = .ok (ip, pool)) (reply : Except FileError CommandRun)
    (fails : ¬ CommandRun.Succeeds runner.limits.run reply) (cause : ServiceError) :
    Starting runner spec [(runner.runCommand spec ip, reply)] (Outcome.failed cause)
      { runner with pool }
  | started (new : runner.container? spec.id = none) (ip : Ipv4) (pool : AddressPool)
    (take_eq : runner.pool.take = .ok (ip, pool)) (reply : Except FileError CommandRun)
    (succeeds : CommandRun.Succeeds runner.limits.run reply) :
    Starting runner spec [(runner.runCommand spec ip, reply)] (.ok (.v4 ip))
      ({ runner with pool }.record ⟨spec.id, runner.containerName spec.id, ip⟩)

/-- **A start**, whatever the machine answers. -/
theorem starting_start {outcome : Outcome ServiceError Ip}
    (h : (start spec).Journals runner journal outcome left) :
    Starting runner spec (issued journal) outcome left := by
  obtain ⟨cause, hreserve, rfl⟩ | ⟨ip, between, before, after, rfl, hreserve, hrest⟩ :=
    Action.journals_bind.1 h
  · obtain ⟨rfl, hreserving⟩ := reserving_reserve hreserve
    generalize hended : (Except.error cause : Outcome ServiceError Ipv4) = ended at hreserving
    cases hreserving with
    | running recorded refusal =>
      cases hended
      exact .running recorded refusal
    | exhausted new refusal spent reason =>
      cases hended
      exact .exhausted new refusal spent reason
    | taken new ip pool take_eq => cases hended
  obtain ⟨rfl, hreserving⟩ := reserving_reserve hreserve
  generalize hended : (Except.ok ip : Outcome ServiceError Ipv4) = ended at hreserving
  cases hreserving with
  | running recorded refusal => cases hended
  | exhausted new refusal spent reason => cases hended
  | taken new taken pool take_eq =>
    obtain rfl := Except.ok.inj hended
    rw [Action.journals_state_bind] at hrest
    obtain ⟨cause, hmake, rfl⟩ | ⟨value, between, before, after, rfl, hmake, hrun⟩ :=
      Action.journals_bind.1 hrest
    · obtain ⟨rfl, hmade⟩ := Action.journals_lift.1 hmake
      have hnone := Workspace.issued_materialise hmade
      rw [List.nil_append, hnone]
      exact .unwritten new ip pool take_eq cause
    obtain ⟨rfl, hmade⟩ := Action.journals_lift.1 hmake
    have hnone := Workspace.issued_materialise hmade
    rw [List.nil_append, issued_append, hnone, List.nil_append]
    obtain ⟨reply, ⟨hfails, hissued, ⟨cause, rfl⟩, rfl⟩ | ⟨hsucceeds, last, hissued, hrecord⟩⟩ :=
      journals_command_bind hrun
    · rw [hissued]
      exact .notRun new ip pool take_eq reply hfails cause
    · obtain ⟨rfl, hended⟩ := hrecord
      obtain ⟨rfl, rfl⟩ := Prod.mk.inj hended
      rw [hissued]
      exact .started new ip pool take_eq reply hsucceeds

/-- **What can become of a stop**: the service is not running, its grace is
longer than can be counted, one of the two commands fails, or both succeed.
Only then is the container off the record. -/
inductive Stopping (runner : ContainerRunner) (service : String) (grace : Duration) :
    List Issued → Outcome ServiceError Unit → ContainerRunner → Prop where
  | unknown (new : runner.container? service = none) (cause : ServiceError) :
    Stopping runner service grace [] (Outcome.failed cause) runner
  | endless (container : Container) (found : runner.container? service = some container)
    (cause : Overflow) (limit_eq : grace.plus runner.limits.remove = .error cause) :
    Stopping runner service grace [] (Outcome.crashed (.overflow cause)) runner
  | notStopped (container : Container) (found : runner.container? service = some container)
    (limit : Duration) (limit_eq : grace.plus runner.limits.remove = .ok limit)
    (reply : Except FileError CommandRun) (fails : ¬ CommandRun.Succeeds limit reply)
    (cause : ServiceError) :
    Stopping runner service grace
      [(["stop", "-t", toString grace.seconds, container.name], reply)] (Outcome.failed cause)
      runner
  | notRemoved (container : Container) (found : runner.container? service = some container)
    (limit : Duration) (limit_eq : grace.plus runner.limits.remove = .ok limit)
    (stopped : Except FileError CommandRun) (stops : CommandRun.Succeeds limit stopped)
    (reply : Except FileError CommandRun)
    (fails : ¬ CommandRun.Succeeds runner.limits.remove reply) (cause : ServiceError) :
    Stopping runner service grace
      [(["stop", "-t", toString grace.seconds, container.name], stopped),
        (["rm", "-f", container.name], reply)] (Outcome.failed cause) runner
  | removed (container : Container) (found : runner.container? service = some container)
    (limit : Duration) (limit_eq : grace.plus runner.limits.remove = .ok limit)
    (stopped : Except FileError CommandRun) (stops : CommandRun.Succeeds limit stopped)
    (reply : Except FileError CommandRun)
    (succeeds : CommandRun.Succeeds runner.limits.remove reply) :
    Stopping runner service grace
      [(["stop", "-t", toString grace.seconds, container.name], stopped),
        (["rm", "-f", container.name], reply)] (.ok ()) (runner.forget service)

/-- **A stop**, whatever the machine answers. -/
theorem stopping_stop {outcome : Outcome ServiceError Unit}
    (h : (stop service grace).Journals runner journal outcome left) :
    Stopping runner service grace (issued journal) outcome left := by
  unfold stop at h
  rw [Action.journals_state_bind] at h
  split at h
  · rename_i hnew
    obtain ⟨rfl, rfl, rfl⟩ := Action.journals_fail.1 h
    exact .unknown hnew _
  rename_i container hfound
  cases hlimit : grace.plus runner.limits.remove with
  | error cause =>
    rw [hlimit] at h
    obtain ⟨rfl, hended⟩ := h
    obtain ⟨rfl, rfl⟩ := Prod.mk.inj hended
    exact .endless container hfound cause hlimit
  | ok limit =>
    rw [hlimit] at h
    obtain ⟨stopped, ⟨hfails, hissued, ⟨cause, rfl⟩, rfl⟩ | ⟨hstops, rest, hissued, hremove⟩⟩ :=
      journals_command_bind h
    · rw [hissued]
      exact .notStopped container hfound limit hlimit stopped hfails cause
    obtain ⟨reply, ⟨hfails, hremoved, ⟨cause, rfl⟩, rfl⟩ | ⟨hsucceeds, last, hremoved, hforget⟩⟩ :=
      journals_command_bind hremove
    · rw [hissued, hremoved]
      exact .notRemoved container hfound limit hlimit stopped hstops reply hfails cause
    · obtain ⟨rfl, hended⟩ := hforget
      obtain ⟨rfl, rfl⟩ := Prod.mk.inj hended
      rw [hissued, hremoved]
      exact .removed container hfound limit hlimit stopped hstops reply hsucceeds

/-! ## Call after call -/

/-- **A call of a runner.** -/
inductive RunnerCall where
  | start (spec : ServiceSpec)
  | stop (service : String) (grace : Duration)

namespace RunnerCall

/-- What is done for a call. -/
def action : RunnerCall → RunnerAction Unit
  | start spec => do let _ ← ContainerRunner.start spec
  | stop service grace => ContainerRunner.stop service grace

/-- **What a call comes to** for those who keep books. It fails and changes
nothing; it fails when an address has been taken already, at most by then
with a container that does not run; it starts a service; or it stops one. -/
inductive Effect (runner : ContainerRunner) : RunnerCall → List Issued →
    Outcome ServiceError Unit → ContainerRunner → Prop where
  | idle (call : RunnerCall) (commands : List Issued) (outcome : Outcome ServiceError Unit)
    (fails : outcome ≠ .ok ()) (runs : ∀ command ∈ commands, command.1.head? ≠ some "run")
    (removes : ∀ command ∈ commands, ∀ name, command.1 = ["rm", "-f", name] →
      ¬ CommandRun.Succeeds runner.limits.remove command.2) :
    Effect runner call commands outcome runner
  | spent (spec : ServiceSpec) (commands : List Issued) (outcome : Outcome ServiceError Unit)
    (fails : outcome ≠ .ok ()) (ip : Ipv4) (pool : AddressPool)
    (take_eq : runner.pool.take = .ok (ip, pool))
    (runs : commands = [] ∨ ∃ reply, ¬ CommandRun.Succeeds runner.limits.run reply
      ∧ commands = [(runner.runCommand spec ip, reply)]) :
    Effect runner (.start spec) commands outcome { runner with pool }
  | started (spec : ServiceSpec) (new : runner.container? spec.id = none) (ip : Ipv4)
    (pool : AddressPool) (take_eq : runner.pool.take = .ok (ip, pool))
    (reply : Except FileError CommandRun)
    (succeeds : CommandRun.Succeeds runner.limits.run reply) :
    Effect runner (.start spec) [(runner.runCommand spec ip, reply)] (.ok ())
      ({ runner with pool }.record ⟨spec.id, runner.containerName spec.id, ip⟩)
  | stopped (service : String) (grace : Duration) (container : Container)
    (found : runner.container? service = some container)
    (reply removal : Except FileError CommandRun)
    (succeeds : CommandRun.Succeeds runner.limits.remove removal) :
    Effect runner (.stop service grace)
      [(["stop", "-t", toString grace.seconds, container.name], reply),
        (["rm", "-f", container.name], removal)] (.ok ()) (runner.forget service)

/-- Only the pool and the containers of a runner change. -/
theorem Effect.setting {call : RunnerCall} {commands : List Issued}
    {outcome : Outcome ServiceError Unit} (h : call.Effect runner commands outcome left) :
    left = { runner with pool := left.pool, containers := left.containers } := by
  cases h <;> rfl

/-- A start, as books are kept of it. -/
theorem effect_of_starting {commands : List Issued} {ended : Outcome ServiceError Ip}
    (h : Starting runner spec commands ended left) :
    (RunnerCall.start spec).Effect runner commands (ended.map fun _ => ()) left := by
  cases h with
  | running recorded cause => exact .idle _ _ _ nofun nofun nofun
  | exhausted new refusal spent cause => exact .idle _ _ _ nofun nofun nofun
  | unwritten new ip pool take_eq cause =>
    exact .spent spec [] (.error cause) nofun ip pool take_eq (Or.inl rfl)
  | notRun new ip pool take_eq reply fails cause =>
    exact .spent spec _ (Outcome.failed cause) nofun ip pool take_eq (Or.inr ⟨reply, fails, rfl⟩)
  | started new ip pool take_eq reply succeeds =>
    exact .started spec new ip pool take_eq reply succeeds

/-- A stop, as books are kept of it. -/
theorem effect_of_stopping {commands : List Issued} {outcome : Outcome ServiceError Unit}
    (h : Stopping runner service grace commands outcome left) :
    (RunnerCall.stop service grace).Effect runner commands outcome left := by
  cases h with
  | unknown new cause => exact .idle _ _ _ nofun nofun nofun
  | endless container found cause limit_eq => exact .idle _ _ _ nofun nofun nofun
  | notStopped container found limit limit_eq reply fails cause =>
    refine .idle _ _ _ nofun ?_ ?_
    · simp
    · simp
  | notRemoved container found limit limit_eq stopped stops reply fails cause =>
    refine .idle _ _ _ nofun ?_ ?_
    · simp
    · simp [fails]
  | removed container found limit limit_eq stopped stops reply succeeds =>
    exact .stopped service grace container found stopped reply succeeds

/-- **Every call**, whatever the machine answers. -/
theorem effect_action {call : RunnerCall} {outcome : Outcome ServiceError Unit}
    (h : call.action.Journals runner journal outcome left) :
    call.Effect runner (issued journal) outcome left := by
  cases call with
  | stop service grace => exact effect_of_stopping (stopping_stop h)
  | start spec =>
    obtain ⟨cause, hstart, rfl⟩ | ⟨ip, between, before, after, rfl, hstart, hend⟩ :=
      Action.journals_bind.1 h
    · exact effect_of_starting (starting_start hstart)
    · obtain ⟨rfl, rfl, rfl⟩ := Action.journals_pure.1 hend
      rw [List.append_nil]
      exact effect_of_starting (starting_start hstart)

end RunnerCall

/-- **What has become of some calls**: of each one, of the runner, and of the
machine. -/
structure Served (σ : Type) where
  history : List (RunnerCall × Outcome ServiceError Unit)
  runner : ContainerRunner
  memory : σ

/-- **Serving calls one after another**, whatever each of them ends with. -/
def serve (machine : Proc.Handler Host σ) : List RunnerCall → ContainerRunner → σ → Served σ
  | [], runner, memory => ⟨[], runner, memory⟩
  | call :: rest, runner, memory =>
    let ended := call.action.runOn machine runner memory
    let later := serve machine rest ended.1.2 ended.2
    { later with history := (call, ended.1.1) :: later.history }

/-- **What every call keeps is kept by all calls.** The property may be about
what was called, about the commands that were issued, and about the runner. -/
theorem serve_keeps
    {keeps : List (RunnerCall × Outcome ServiceError Unit) → List Issued → ContainerRunner → Prop}
    (hcall : ∀ {history commands runner call more outcome left}, keeps history commands runner →
      call.Effect runner more outcome left →
        keeps (history ++ [(call, outcome)]) (commands ++ more) left)
    (machine : Proc.Handler Host σ) (calls : List RunnerCall) {runner : ContainerRunner}
    {memory : σ × List (Proc.Entry Host)}
    {history : List (RunnerCall × Outcome ServiceError Unit)}
    (h : keeps history (issued memory.2) runner) :
    keeps (history ++ (serve (Proc.journaled machine) calls runner memory).history)
      (issued (serve (Proc.journaled machine) calls runner memory).memory.2)
      (serve (Proc.journaled machine) calls runner memory).runner := by
  -- what was called and issued before is the start of what will have been in the end
  induction calls generalizing history runner memory with
  | nil =>
    unfold serve
    rwa [List.append_nil]
  | cons call rest ih =>
    obtain ⟨journal, hwritten, hjournal⟩ :=
      Action.journals_runOn machine call.action runner memory.1 memory.2
    have hkept := hcall h (RunnerCall.effect_action hjournal)
    rw [← issued_append, ← hwritten] at hkept
    have hrest := ih hkept
    rw [List.append_assoc] at hrest
    exact hrest

end ContainerRunner

end LedgerNet
