import LedgerNet.Text.Utf8
import LedgerNet.Text.Numeral

/-!
# The environment of a run

A run is configured by environment variables. Their values are bytes, and a
value that is not text counts as no value at all, for every reader. The
readers of this module are pure functions of the environment; nothing is
remembered from one run to the next.
-/

namespace LedgerNet

/-- **The environment variables that are set**, with their bytes. -/
structure Environment where
  bindings : List (String × List UInt8)
  deriving Repr

namespace Environment

/-- No variable is set. -/
def empty : Environment := ⟨[]⟩

/-- An environment of texts. -/
def ofTexts (bindings : List (String × String)) : Environment :=
  ⟨bindings.map fun entry => (entry.1, Text.utf8Bytes entry.2)⟩

/-- **The text of a variable**, if it is set to one. -/
def text? (env : Environment) (name : String) : Option String :=
  (env.bindings.find? (·.1 == name)).bind fun entry => Text.decodeUtf8? entry.2

/-- Whether a variable is set to a text, the empty one included. -/
def isSet (env : Environment) (name : String) : Bool :=
  (env.text? name).isSome

/-- A number of seconds that takes the place of a default. -/
def seconds? (env : Environment) (name : String) : Option UInt64 :=
  (env.text? name).bind Text.readUInt64?

/-- **The first of several variables** that is set and reads as a value of
the wanted kind, or else a default. -/
def firstOf {α : Type} (env : Environment) (names : List String) (read : String → Option α)
    (default : α) : α :=
  (names.findSome? fun name => (env.text? name).bind read).getD default

/-! ## Switches and names -/

/-- Timeouts are doubled for machines that are known to be slow. -/
def isSlow (env : Environment) : Bool :=
  env.text? "SLOW_TEST_ENV" == some "true"

/-- Tests trace what they do; the word may be in any mixture of cases. -/
def tracesTests (env : Environment) : Bool :=
  match env.text? "TESTNET_TESTS_TRACING" with
  | some word => word.toList.map Char.toLower == "true".toList
  | none => false

/-- The log filter that comes before all others. -/
def logFilter? (env : Environment) : Option String := env.text? "RUST_LOG"

/-- The log level of nodes and of the runner. -/
def logLevel? (env : Environment) : Option String := env.text? "TESTNET_LOG_LEVEL"

/-- The image that nodes run. -/
def nodeImage? (env : Environment) : Option String := env.text? "TESTNET_NODE_IMAGE"

/-- The directory with the certificates and keys of the genesis stakers. -/
def stakerCerts? (env : Environment) : Option String := env.text? "TESTNET_STAKER_CERTS_DIR"

/-- A container network that exists already. -/
def dockerNetwork? (env : Environment) : Option String := env.text? "TESTNET_DOCKER_NETWORK"

/-- The subnet of the containers. -/
def dockerSubnet? (env : Environment) : Option String := env.text? "TESTNET_DOCKER_SUBNET"

/-- Containers and files outlive the run. -/
def preserves (env : Environment) : Bool := env.isSet "TESTNET_RUNNER_PRESERVE"

/-- The file that describes the network. -/
def manifestPath? (env : Environment) : Option String := env.text? "TESTNET_NETWORK_MANIFEST"

end Environment

end LedgerNet
