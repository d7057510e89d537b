import LedgerNet.Rehearsal.Plan
import LedgerNet.Rehearsal.Step
import LedgerNet.Report.Rehearsal

/-!
# Rehearsing a wait

Waiting for a node, for a transaction and checking balances, each against
one scripted node or against planned answers in a row.
-/

namespace LedgerNet.Plan

open Json Report

/-- The time of day at which rehearsals start. -/
def epoch : Duration := .ofSeconds 1700000000

/-- **One scripted node**, whose client has the number zero. -/
def readScriptedNode (plan : Json) : Reading (Timeline (Sessions Empty Unit)) := do
  let session : Session Empty := ⟨"node", some (← readScript plan), none⟩
  return Timeline.start epoch ((Sessions.ofWorld ()).connect session).2

/-! ## A node that is waited for -/

/-- A node that is waited for, in the time of its rehearsal. -/
structure ReadinessRun where
  checker : Checker Nat
  time : Timeline (Sessions Empty Unit)

/-- What a step asks of the node. -/
abbrev ReadinessQuestion :=
  Attempt (Timed (Clients Nat)) ReadinessError (Except ReadinessError Members × Checker Nat)

def readReadinessQuestion (checker : Checker Nat) (plan : Json) : Reading ReadinessQuestion := do
  match ← plan.textAt "do" with
  | "poll" => return do
      let (ready, checker) ← checker.poll
      return (.ok [("ready", .bool ready)], checker)
  | "wait" =>
    let budget ← readBudget plan
    return do
      let (outcome, checker) ← checker.await budget
      return (outcome.map fun () => [("ready", .bool true)], checker)
  | "message" => return pure (.ok [("timeout_message", txt checker.timeoutMessage)], checker)
  | other => .error other

/-- **One step with a node that is waited for.** -/
def readinessStep : Stepper ReadinessRun := fun before plan => do
  let question ← readReadinessQuestion before.checker plan
  let (outcome, time) := question.run.run (Timeline.handler (Sessions.answer nobody)) before.time
  let told (checker : Checker Nat) : Members := [("record", recordJson checker.record),
    ("elapsed_ms", ms (time.now.minusOrZero before.time.now)), ("calls", callsOrNull time.world)]
  let after := { time with world := time.world.withoutNotes }
  match outcome with
  | .ok (result, checker) =>
    return (.of (result.mapError Failure.error) (told checker), ⟨checker, after⟩)
  | .error failure => return (.of (.error failure) (told before.checker), ⟨before.checker, after⟩)

def rehearseReadiness (plan : Json) : Reading Json := do
  let node ← plan.textAt "node"
  let start : ReadinessRun := ⟨Checker.ofNode node 0, ← readScriptedNode plan⟩
  return obj [("node", txt node), ("steps", ← readinessStep.tell start plan)]

/-! ## A transaction that is waited for -/

/-- What a wait for a transaction came to; of a crash there is nothing else
to tell. -/
def acceptanceTelling (outcome : Outcome AcceptanceError Unit) (rest : Members) : Json :=
  match outcome with
  | .ok () => obj (("ok", .bool true) :: rest)
  | .error (.error cause) =>
    obj (faultMembers cause ++ ("is_unsupported", .bool cause.isUnsupported) :: rest)
  | .error (.crash cause) => obj (crashMembers cause)

/-- Waits for the transaction of a plan at a source of its state. -/
def readWait {Q : Interface.{0}} (plan : Json) (lane : Lane) (source : StatusSource Q) :
    Reading (Attempt (Timed Q) AcceptanceError Unit) := do
  let tx ← plan.textAt "tx"
  let settings ← readPolls plan
  match ← plan.textAt "mode" with
  | "or_wait" => return Acceptance.awaitOrPause source tx lane settings
  | _ => return Acceptance.await source tx lane settings

def rehearseAcceptance (plan : Json) : Reading Json := do
  let lane ← plan.need "lane" asLane
  match ← plan.opt "states" asItems with
  | some states =>
    let states ← states.mapM fun s => (asOutcome asState s).elim (.error "states") .ok
    let wait ← readWait plan lane StatusRow.source
    let (outcome, t) := wait.run.run (Timeline.handler StatusRow.answer)
      (Timeline.start epoch ⟨states, 0⟩)
    return acceptanceTelling outcome [("elapsed_ms", ms t.now), ("calls", .null),
      ("polls", .ofNat t.world.taken)]
  | none =>
    let wait ← readWait plan lane (nodeStatus 0 lane)
    let (outcome, t) := wait.run.run (Timeline.handler (Sessions.answer nobody))
      (← readScriptedNode plan)
    return acceptanceTelling outcome [("elapsed_ms", ms t.now), ("calls", callsOrNull t.world),
      ("polls", .ofNat t.world.notes.length)]

/-! ## Balances -/

/-- The balances of a plan: addresses and what they have to hold. -/
def readChecks (plan : Json) : Reading (List (String × Nat)) := do
  (← plan.need "checks" asItems).mapM fun check =>
    match check with
    | .array [.text address, .text expected] =>
      (Text.digits? 10 expected.toList).elim (.error expected) fun n => .ok (address, n)
    | _ => .error "checks"

/-- Checks balances, each on its own or all as a batch. -/
def checkBalances {Q : Interface.{0}} {σ : Type} (answer : Proc.Handler Q σ)
    (source : BalanceSource Q) (lane : Lane) (batch : Bool) (checks : List (String × Nat))
    (t : Timeline σ) : Json × σ :=
  let verdict : Outcome BalanceError Unit → Json := result fun () => txt "ok"
  if batch then
    let (outcome, t) := (Balance.checkAll source lane checks).run.run (Concurrent.handler answer) t
    (verdict outcome, t.world)
  else
    let each : Proc (Timed Q) (List (Outcome BalanceError Unit)) :=
      checks.mapM fun (address, expected) => (Balance.check source lane address expected).run
    let (outcomes, t) := each.run (Timeline.handler answer) t
    (.array (outcomes.map verdict), t.world)

def rehearseBalance (plan : Json) : Reading Json := do
  let lane ← plan.need "lane" asLane
  let batch := (← plan.textAt "mode") == "batch"
  let checks ← readChecks plan
  match ← plan.opt "book" (asBook (asOutcome asDigits)) with
  | some book =>
    let (outcome, world) := checkBalances BalanceBook.answer BalanceBook.source lane batch checks
      (Timeline.start epoch ⟨book, []⟩)
    return obj [("outcome", outcome), ("calls", .null),
      ("queried", txts (world.asked.mergeSort fun a b => decide (a ≤ b)))]
  | none =>
    let asset ← plan.optD "asset" asText "AVAX"
    let (outcome, world) := checkBalances (Sessions.answer nobody) (nodeBalance 0 lane asset)
      lane batch checks (← readScriptedNode plan)
    return obj [("outcome", outcome), ("calls", callsOrNull world), ("queried", .array [])]

/-! ## The contract lane -/

def rehearseContractCalls (plan : Json) : Reading Json := do
  let calls ← (← plan.need "calls" asItems).mapM fun call =>
    (asContractCall call).elim (.error "calls") .ok
  let replies := (← plan.optD "replies" asItems []).map replyOf
  let line : ContractLine := ⟨← plan.optD "delay_ms" asMillis .zero, replies, []⟩
  let (answers, t) :=
    (ContractCall.inTurn calls).run ContractLine.handler (Timeline.start .zero line)
  return obj [("answers", .array (answers.map (resultE contractReplyJson))),
    ("elapsed_ms", ms t.now), ("log", .array (t.world.events.reverse.map lineEventJson)),
    ("replies_left", .ofNat t.world.replies.length)]

end LedgerNet.Plan
