import LedgerNet.Container.Runner
import LedgerNet.Rehearsal.Book

/-!
# A machine that follows a plan

The container tool can be made to fail, to print something or to hang, for
one service or for all of them; where the plan is silent it succeeds at
once. It may also be missing altogether. Files are kept as on any machine,
and every use of the tool is noted.
-/

namespace LedgerNet

/-- **A machine that follows a plan.** -/
structure PlannedHost where
  /-- What the tool does, by the names of its uses; none if it is missing. -/
  tool : Option (Book CommandRun)
  /-- The name of the run, which containers begin with. -/
  project : String
  files : FileSystem
  /-- Where new directories are made. -/
  root : String
  /-- The arguments that the tool was given, the last ones first. -/
  uses : List (List String)

namespace PlannedHost

/-- A machine on which nothing was done yet. -/
def fresh (tool : Option (Book CommandRun)) (project root : String) : PlannedHost :=
  ⟨tool, project, .empty, root, []⟩

/-- The service of a container. -/
def serviceOf (project container : String) : String :=
  let before := project.toList ++ ['-']
  if before.isPrefixOf container.toList then
    String.ofList (container.toList.drop before.length)
  else container

/-- **The names of a use of the tool** in a plan, the narrowest first. -/
def namesOf (project : String) : List String → List String
  | "run" :: _ :: _ :: name :: _ => ["run@" ++ serviceOf project name, "run"]
  | "stop" :: _ :: _ :: name :: _ => ["stop@" ++ serviceOf project name, "stop"]
  | "rm" :: _ :: name :: _ => ["rm@" ++ serviceOf project name, "rm"]
  | "network" :: verb :: _ => ["network-" ++ verb]
  | verb :: _ => [verb]
  | [] => []

/-- Uses the tool. A tool that is missing notes nothing. -/
def runTool (host : PlannedHost) (args : List String) :
    Except FileError CommandRun × PlannedHost :=
  match host.tool, args.any (·.toList.contains '\x00') with
  | _, true => (.error .zeroInArgument, host)
  | none, false => (.error .notFound, host)
  | some tool, false =>
    (.ok (((namesOf host.project args).findSome? tool.get?).getD .quiet),
      { host with uses := args :: host.uses })

/-- **How the machine answers.** -/
def answer : Proc.Handler Host PlannedHost
  | .docker args, host => host.runTool args
  | .newDirectory _, host =>
    let made := host.files.makeDirectories host.root
    (made.1.map fun () => host.root, { host with files := made.2 })
  | .makeDirectories path, host =>
    let made := host.files.makeDirectories path
    (made.1, { host with files := made.2 })
  | .write path contents, host =>
    match host.files.write path (Text.utf8Bytes contents) with
    | .ok files => (.ok (), { host with files })
    | .error cause => (.error cause, host)
  | .removeTree path, host => ((), { host with files := host.files.remove (Path.names path) })

/-- Whether there is a workspace. -/
def hasWorkspace (host : PlannedHost) : Bool := host.files.isDirectory (Path.names host.root)

/-- The files of the workspace: their paths in it, and what they hold. -/
def workspaceFiles (host : PlannedHost) : List (String × String) :=
  (host.files.filesBelow (Path.names host.root)).map fun (names, contents) =>
    (String.intercalate "/" names, Text.decodeUtf8Lossy contents)

/-- The machine with no use of the tool noted. -/
def withoutNotes (host : PlannedHost) : PlannedHost := { host with uses := [] }

end PlannedHost

end LedgerNet
