import LedgerNet.Duration
import LedgerNet.Environment.Basic
import LedgerNet.Number.Rate

/-!
# Timing

How long a run waits, and how often it asks. Every number has a default and
a variable that replaces it: durations in whole seconds, counts as numbers
of 32 bits. Some timeouts are stretched on slow machines; stretching may
overflow, and that is told apart from any duration.
-/

namespace LedgerNet

/-- **A fixed-interval budget**: how often to ask, and how long to wait in
between. -/
structure PollBudget where
  interval : Duration
  maxAttempts : UInt32
  deriving DecidableEq, Repr

/-- **How to wait for a transaction**: ask once per interval until a timeout
would be passed. -/
structure PollSettings where
  interval : Duration
  timeout : Duration
  deriving DecidableEq, Repr

/-- **When stakes begin and how long they last.** -/
structure StakingSchedule where
  /-- From the request to the time at which the stake begins. -/
  startDelay : Duration
  /-- From that time to the look at the validators. -/
  startGrace : Duration
  validationPeriod : Duration
  delegationPeriod : Duration
  /-- What a validator keeps of its delegators' rewards. -/
  feeRate : Rate
  deriving DecidableEq, Repr

namespace Environment

variable (env : Environment)

/-- A duration with a variable that replaces it. -/
def durationOr (name : String) (default : Nat) : Duration :=
  Duration.ofSeconds (((env.seconds? name).map UInt64.toNat).getD default)

/-- A count with a variable that replaces it, if the number has 32 bits. -/
def countOr (name : String) (default : UInt32) : UInt32 :=
  (((env.seconds? name).filter fun n => n.toNat < 2 ^ 32).map UInt64.toUInt32).getD default

def acceptanceTimeout : Duration :=
  env.durationOr "TESTNET_ACCEPTANCE_TIMEOUT_SECS" 30

/-- Transfers to another lane take longer to settle. -/
def exportTimeout : Duration :=
  env.durationOr "TESTNET_EXPORT_ACCEPTANCE_TIMEOUT_SECS" 120

def acceptanceInterval : Duration :=
  env.durationOr "TESTNET_ACCEPTANCE_POLL_INTERVAL_SECS" 1

def startupInterval : Duration :=
  env.durationOr "TESTNET_STARTUP_POLL_INTERVAL_SECS" 20

def startupMaxPolls : UInt32 :=
  env.countOr "TESTNET_STARTUP_MAX_POLLS" 10

def waveInterval : Duration :=
  env.durationOr "TESTNET_BOOTSTRAP_WAVE_POLL_INTERVAL_SECS" 15

def waveMaxPolls : UInt32 :=
  env.countOr "TESTNET_BOOTSTRAP_WAVE_MAX_POLLS" 10

def terminationGrace : Duration :=
  env.durationOr "TESTNET_TERMINATION_GRACE_SECS" 30

def stakingStartDelay : Duration :=
  env.durationOr "TESTNET_STAKING_START_DELAY_SECS" 20

def stakingStartGrace : Duration :=
  env.durationOr "TESTNET_STAKING_START_GRACE_SECS" 3

/-- **A timeout on this machine**: twice as long where it is slow. -/
def stretched (d : Duration) : Checked Duration :=
  if env.isSlow then d.times 2 else .ok d

/-- The budget of a node that is started on its own. -/
def startupBudget : Checked PollBudget := do
  return ⟨← env.stretched env.startupInterval, env.startupMaxPolls⟩

/-- The budget of each node that is started together with others. -/
def waveBudget : Checked PollBudget := do
  return ⟨← env.stretched env.waveInterval, env.waveMaxPolls⟩

/-- How to wait for a transaction on one lane. -/
def acceptanceSettings : Checked PollSettings := do
  return ⟨env.acceptanceInterval, ← env.stretched env.acceptanceTimeout⟩

/-- How to wait for an export. The timeout of its own comes first, so its
overflow is the one that is seen. -/
def exportSettings : Checked PollSettings := do
  let timeout ← env.stretched env.exportTimeout
  let usual ← env.acceptanceSettings
  return { usual with timeout }

/-- The schedule of a staking run: three days for a validator, half of it
for a delegator. -/
def schedule : StakingSchedule where
  startDelay := env.stakingStartDelay
  startGrace := env.stakingStartGrace
  validationPeriod := Duration.ofSeconds (72 * 60 * 60)
  delegationPeriod := Duration.ofSeconds (36 * 60 * 60)
  feeRate := Rate.two

end Environment

end LedgerNet
