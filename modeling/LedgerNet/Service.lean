import LedgerNet.Duration
import LedgerNet.Files
import LedgerNet.Launch
import LedgerNet.Text.Quoted

/-!
# Services

A node runs as a service: something with an image, files and a command that
a runner starts under an id and stops again. What the command is depends on
the address that the runner picks and on where it mounts the files, so it is
a function of both.
-/

namespace LedgerNet

/-- **What a runner needs to start a service.** -/
structure ServiceSpec where
  id : String
  image : String
  /-- Names and contents, in the order of the names. -/
  files : List (String × String)
  /-- The command, once the address and the mounts are known. -/
  command : Ip → Mounts → List String

/-- What is shown of a service: the names of its files without their
contents, and nothing of its command. -/
def ServiceSpec.debug (spec : ServiceSpec) : String :=
  "ServiceSpec \x7b service_id: " ++ Text.quote spec.id
    ++ ", image: " ++ Text.quote spec.image
    ++ ", files: " ++ Text.quoteList (spec.files.map (·.1)) ++ ", .. \x7d"

/-- **Why a runner did not do what it was asked.** Each runner has reasons
of its own, and what others see of them is their text. -/
structure ServiceError where
  message : String
  /-- The reasons behind it, outermost first. -/
  causes : List String
  deriving DecidableEq, Repr

/-- A reason with nothing behind it. -/
def ServiceError.ofText (text : String) : ServiceError := ⟨text, []⟩

/-- Every file mounted under its own name in one directory. -/
def ServiceSpec.mountsIn (spec : ServiceSpec) (directory : String) : Mounts :=
  spec.files.map fun (name, _) => (name, Path.join directory name)

end LedgerNet
