import LedgerNet.Definition.Node
import LedgerNet.Environment.Basic
import LedgerNet.Files

/-!
# The genesis of the local network

The first ledger of the local network knows five stakers and one account
with funds. The stakers' identities come from certificates that are
published with the node software. A node that is started with one of these
certificates and its key validates under that identity from the first
block on; without the files the stakers are only names.
-/

namespace LedgerNet

/-- **A staker of the first ledger.** -/
structure Staker where
  nodeId : String
  /-- Its certificate and key, once they are loaded. -/
  credentials : Option Credentials
  deriving DecidableEq, Repr

/-- **The account that holds the first funds.** -/
structure FundedAccount where
  /-- Its address on the exchange lane. -/
  address : String
  privateKey : String
  deriving DecidableEq, Repr

/-- **The first ledger**, as far as a run needs to know it. -/
structure Genesis where
  stakers : List Staker
  funded : FundedAccount
  deriving DecidableEq, Repr

/-- What goes wrong while the stakers' files are loaded. -/
inductive GenesisError where
  | unreadableCredential (path : String) (cause : FileError)
  deriving DecidableEq, Repr

namespace GenesisError

def message : GenesisError → String
  | unreadableCredential path _ => "failed to read staker credential " ++ path

def causes : GenesisError → List String
  | unreadableCredential _ cause => [cause.message]

end GenesisError

namespace Genesis

/-- The identities of the five stakers. -/
def localStakerIds : List String := [
  "NodeID-7Xhw2mDxuDS44j42TCB6U5579esbSt3Lg",
  "NodeID-MFrZFVCXPv5iCn6M9K6XduxGTYp891xXZ",
  "NodeID-NFBbbJ4qCmNaCzeW7sxErhvWqvEQMnYcN",
  "NodeID-GWPcbFJZFfZreETSoWjPimr846mXEKCtu",
  "NodeID-P7oB2McjBGgW2NXXWVYjV8JEDFoW9xDE5"]

/-- **The local network's first ledger**, the stakers without files. -/
def localNet : Genesis where
  stakers := localStakerIds.map fun nodeId => ⟨nodeId, none⟩
  funded := {
    address := "X-local18jma8ppw3nhx5r4ap8clazz0dps7rv5u00z96u"
    privateKey := "PrivateKey-ewoqjP7PxY4yr3iLTpLisriqt94hdyDFNgchSxGGztUrTXtNN" }

/-- The text of a credential file. -/
def readCredential (files : FileSystem) (path : String) : Except GenesisError String :=
  (files.readText path).mapError (.unreadableCredential path)

/-- **Loads the files of stakers**, counted from `ordinal`: certificate and
key of one staker before those of the next. The first file that cannot be
read ends it. -/
def loadStakers (files : FileSystem) (directory : String) (ordinal : Nat) :
    List Staker → Except GenesisError (List Staker)
  | [] => .ok []
  | staker :: rest => do
    let base := "staker" ++ toString ordinal
    let cert ← readCredential files (Path.join directory (base ++ ".crt"))
    let key ← readCredential files (Path.join directory (base ++ ".key"))
    let rest ← loadStakers files directory (ordinal + 1) rest
    return { staker with credentials := some ⟨staker.nodeId, cert, key⟩ } :: rest

/-- The local network's first ledger with the stakers' files. -/
def localWithCredentials (files : FileSystem) (directory : String) :
    Except GenesisError Genesis := do
  return { localNet with stakers := ← loadStakers files directory 1 localNet.stakers }

/-- **The first ledger of a run**: with the stakers' files if the
environment names their directory. -/
def ofEnvironment (env : Environment) (files : FileSystem) : Except GenesisError Genesis :=
  match env.stakerCerts? with
  | some directory => localWithCredentials files directory
  | none => .ok localNet

end Genesis

end LedgerNet
