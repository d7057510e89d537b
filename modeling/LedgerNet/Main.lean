import LedgerNet.StakingRun

/-!
# The command line

Makes a staking run on this machine. The program starts no other programs,
so the machine has no container tool, and the run says so and ends. The
lines that the log filter shows go to the output, and the program ends with
the code of the run.
-/

namespace LedgerNet.CommandLine

/-- The variables that are looked at. -/
def bindings : List String := [
  "RUST_LOG", "SLOW_TEST_ENV", "TESTNET_ACCEPTANCE_POLL_INTERVAL_SECS",
  "TESTNET_ACCEPTANCE_TIMEOUT_SECS", "TESTNET_BOOTSTRAP_WAVE_MAX_POLLS",
  "TESTNET_BOOTSTRAP_WAVE_POLL_INTERVAL_SECS", "TESTNET_DEMO_ADDED_NODES",
  "TESTNET_DOCKER_NETWORK", "TESTNET_DOCKER_SUBNET", "TESTNET_EXPORT_ACCEPTANCE_TIMEOUT_SECS",
  "TESTNET_LOG_LEVEL", "TESTNET_NETWORK_MANIFEST", "TESTNET_NODE_IMAGE",
  "TESTNET_RUNNER_PRESERVE", "TESTNET_STAKER_CERTS_DIR", "TESTNET_STAKING_START_DELAY_SECS",
  "TESTNET_STAKING_START_GRACE_SECS", "TESTNET_STARTUP_MAX_POLLS",
  "TESTNET_STARTUP_POLL_INTERVAL_SECS", "TESTNET_TERMINATION_GRACE_SECS"]

/-- A machine that does nothing for others. -/
def machine : Machine Unit where
  host
    | .docker _, () => (.error .notFound, ())
    | .newDirectory _, () => (.error .permissionDenied, ())
    | .makeDirectories _, () => (.error .permissionDenied, ())
    | .write _ _, () => (.error .permissionDenied, ())
    | .removeTree _, () => ((), ())
  post _ _ := (none, ())

/-- A line as it is printed. -/
def render (event : RunEvent) : String :=
  let values := event.values.map fun (name, n) => " " ++ name ++ "=" ++ toString n
  String.ofList (event.level.name.toList.map Char.toUpper) ++ " " ++ RunEvent.target ++ ": "
    ++ event.message ++ String.join values

end LedgerNet.CommandLine

open LedgerNet LedgerNet.CommandLine in
def main : IO UInt32 := do
  let set ← bindings.filterMapM fun name => do
    return (← IO.getEnv name).map fun text => (name, text)
  let env := Environment.ofTexts set
  let report := StakingRun.run machine env .empty .zero "testnet" ()
  for event in report.shown (LogFilter.ofEnvironment env) do
    IO.println (render event)
  return UInt32.ofNat report.exit
