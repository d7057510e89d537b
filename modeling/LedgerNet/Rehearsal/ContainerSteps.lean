import LedgerNet.Rehearsal.FleetSteps
import LedgerNet.Rehearsal.PlannedHost
import LedgerNet.Rehearsal.Shell

/-!
# Rehearsing a runner of containers

Services are started and stopped on a machine that follows a plan. What is
told of a step has the uses that it made of the container tool. The end of
the run may be a step of its own; if it is not, it comes after the last
one.
-/

namespace LedgerNet.Plan

open Json Report

/-- The name of a project in a rehearsal. -/
def projectName : String := "testnet-ID"

/-- The place of the workspace in a rehearsal. -/
def workspaceRoot : String := "<ws>"

/-- An error with its causes, even where there are none. -/
def serviceFault (kind : String) (cause : ServiceError) : Members :=
  [("error", txt kind), ("message", txt cause.message), ("causes", txts cause.causes)]

/-- What the container tool does for a use: it hangs, or it prints something
and ends. -/
def readCommandRun (j : Json) : Reading CommandRun := do
  match ← j.opt "sleep" asNat with
  | some seconds => return { CommandRun.quiet with duration := Duration.ofSeconds seconds }
  | none =>
    return { CommandRun.quiet with
      status := .exited (← j.optD "exit" asNat 0)
      output := Text.utf8Bytes (← j.textAt "stdout")
      errorOutput := Text.utf8Bytes (← j.textAt "stderr") }

/-- **The machine of a plan.** -/
def readHost (plan : Json) : Reading PlannedHost := do
  let tool ← match plan.get? "plan" with
    | none => pure none
    | some uses => do
      let entries ← (asBook some uses).elim (.error "plan") .ok
      let runs ← entries.mapM fun (name, entry) => return (name, ← readCommandRun entry)
      pure (some (⟨runs⟩ : Book CommandRun))
  return PlannedHost.fresh tool projectName workspaceRoot

/-- The environment of a plan. -/
def readVariables (plan : Json) : Reading Environment := do
  return .ofTexts (← plan.optD "vars" (asBook asText) [])

def usesJson (host : PlannedHost) : Json := .array (host.uses.reverse.map txts)

/-- The files of the workspace, or null where there is none. -/
def workspaceJson (host : PlannedHost) : Json :=
  if host.hasWorkspace then
    obj (host.workspaceFiles.map fun (path, contents) => (path, txt contents))
  else .null

/-! ## A command alone -/

def rehearseCommand (plan : Json) : Reading Json := do
  let run := Shell.runProgram (← plan.textAt "program") (← plan.optD "args" asTexts [])
  let limit ← needMillis plan "limit_ms"
  let printed := CommandRun.result (← plan.textAt "description") limit run
  return resultE (fun output => obj [("stdout", txt output)]) printed

/-! ## The workspace alone -/

/-- One directory of a workspace. -/
def workspaceStep : Stepper PlannedHost := fun host plan => do
  let id ← plan.textAt "id"
  let files ← plan.optD "files" (asBook asText) []
  let spec : ServiceSpec := ⟨id, "", files, fun _ _ => []⟩
  let directory := Path.join host.root id
  let (outcome, host) := (Workspace.materialise directory files).run.run PlannedHost.answer host
  match outcome with
  | .ok () =>
    let mounts := spec.mountsIn Conventions.volumeMountpoint
    return (⟨[("dir", txt directory), ("host", workspaceJson host),
      ("mounted", obj (mounts.map fun (name, path) => (name, txt path)))], false⟩, host)
  | .error (.error cause) => return (⟨serviceFault "Workspace" cause, false⟩, host)
  | .error (.crash cause) => return (⟨crashMembers cause, true⟩, host)

def rehearseWorkspace (plan : Json) : Reading Json := do
  let host := PlannedHost.fresh none projectName workspaceRoot
  let (_, host) := PlannedHost.answer (.newDirectory "") host
  let (_, after) := PlannedHost.answer (.removeTree host.root) host
  return obj [("steps", ← workspaceStep.tell host plan), ("existed", .bool host.hasWorkspace),
    ("exists_after", .bool after.hasWorkspace)]

/-! ## The runner -/

/-- **A runner and its machine.** -/
structure ContainerRun where
  runner : ContainerRunner
  host : PlannedHost
  /-- Whether the run is over. -/
  ended : Bool

namespace ContainerRun

/-- Runs something and tells of it: what it came to, and what every step
tells. -/
def acts {α : Type} (before : ContainerRun) (p : RunnerAction α) (members : α → Members)
    (extra : PlannedHost → Members) : Telling × ContainerRun :=
  let ((outcome, runner), host) := (p.start before.runner).run PlannedHost.answer before.host
  let rest : Members := extra host ++ [("running", txts (runner.containers.map Container.service)),
    ("docker", usesJson host)]
  let telling : Telling := match outcome with
    | .ok value => ⟨members value ++ rest, false⟩
    | .error (.error cause) => ⟨serviceFault "Dyn" cause ++ rest, false⟩
    | .error (.crash cause) => ⟨crashMembers cause, true⟩
  (telling, { before with runner, host := host.withoutNotes })

/-- A step that only looks. -/
def looks (before : ContainerRun) (members : Members) : Telling × ContainerRun :=
  before.acts (pure () : RunnerAction Unit) (fun _ => members) fun _ => []

/-- The end of the run, which comes only once. -/
def ends (preserve : Bool) (before : ContainerRun) : Telling × ContainerRun :=
  if before.ended then
    before.looks [("workspace_kept", .bool before.host.hasWorkspace)]
  else
    let (telling, after) := before.acts (ContainerRunner.cleanUp preserve) (fun _ => [])
      fun host => [("workspace_kept", .bool host.hasWorkspace)]
    (telling, { after with ended := true })

end ContainerRun

/-- A part of a text in place of every occurrence of another. -/
def substitute (part filling : List Char) : List Char → List Char
  | [] => []
  | c :: rest =>
    if part ≠ [] ∧ part.isPrefixOf (c :: rest) then
      filling ++ substitute part filling (rest.drop (part.length - 1))
    else c :: substitute part filling rest
termination_by cs => cs.length
decreasing_by all_goals simp only [List.length_drop, List.length_cons]; omega

/-- An argument of a planned command, with the address and the paths put
in. -/
def fillIn (ip : Ip) (mounts : Mounts) (argument : String) : String :=
  let blanks := ("\x7bip\x7d", ip.text)
    :: mounts.map fun (file, path) => ("\x7bfile:" ++ file ++ "\x7d", path)
  blanks.foldl (fun filled (blank, filling) =>
    String.ofList (substitute blank.toList filling.toList filled.toList)) argument

/-- The service of a planned start. -/
def readService (plan : Json) : Reading ServiceSpec := do
  let command ← plan.optD "command" asTexts []
  return ⟨← plan.textAt "id", ← plan.textAt "image", ← plan.optD "files" (asBook asText) [],
    fun ip mounts => command.map (fillIn ip mounts)⟩

/-- **One step with a runner of containers.** -/
def containerStep (preserve : Bool) : Stepper ContainerRun := fun run plan => do
  let id ← plan.textAt "id"
  match ← plan.textAt "do" with
  | "start" =>
    let spec ← readService plan
    return run.acts (ContainerRunner.start spec) (fun ip => [("ip", txt ip.text)]) fun host =>
      [("debug", txt spec.debug), ("host", workspaceJson host)]
  | "stop" =>
    let grace ← needMillis plan "grace_ms"
    return run.acts (ContainerRunner.stop id grace) (fun _ => succeeded) fun _ => []
  | "lookup" =>
    return run.looks [("ip", orNull (fun c => txt c.ip.text) (run.runner.container? id)),
      ("container", txt (run.runner.containerName id))]
  | "cleanup" => return run.ends preserve
  | other => .error other

/-- Takes the steps of a plan and ends the run after the last one. -/
def containerSteps (preserve : Bool) : ContainerRun → List Json → Reading (List Json × ContainerRun)
  | run, [] => return ([], run)
  | run, plan :: rest => do
    let (telling, run) ← containerStep preserve run plan
    if telling.crashed then return ([obj telling.members], run)
    else
      let (told, run) ← containerSteps preserve run rest
      return (obj telling.members :: told, run)

/-- Whether the tool answers within a limit. -/
def rehearseAvailable (host : PlannedHost) (limit : Duration) : Json :=
  let (available, host) := (Host.available limit).run PlannedHost.answer host
  obj [("available", .bool available), ("docker", usesJson host)]

def rehearseContainers (plan : Json) : Reading Json := do
  let env ← readVariables plan
  let host ← readHost plan
  if let some limit ← plan.opt "available_ms" asMillis then return rehearseAvailable host limit
  let (outcome, host) := (ContainerRunner.create env projectName).run.run PlannedHost.answer host
  match outcome with
  | .error (.crash cause) => return obj (crashMembers cause)
  | .error (.error cause) =>
    return obj (serviceFault "Create" cause ++ [("docker", usesJson host)])
  | .ok runner =>
    let steps ← plan.optD "steps" asItems []
    let (told, run) ← containerSteps env.preserves ⟨runner, host.withoutNotes, false⟩ steps
    let ((_, _), after) := if run.ended then (((.ok (), run.runner)), run.host) else
      ((ContainerRunner.cleanUp env.preserves).start run.runner).run PlannedHost.answer run.host
    return obj [("steps", .array told), ("after", usesJson after),
      ("created", obj [("project", txt runner.project), ("network", txt runner.network),
        ("docker", usesJson host)])]

end LedgerNet.Plan
