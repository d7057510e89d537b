import LedgerNet.Proofs.Acceptance.Minutes
import LedgerNet.Proofs.Program.Pausing
import LedgerNet.Proofs.Staking.Orderly

/-!
# Stakes begin on time

Whoever stakes says from when to when, in whole seconds of the time of day, and
then waits until the stake has begun, on a clock that counts from the start of
the run and is exact. The seconds are cut off from two sums, and for a period of
whole seconds they cut off the same: the stake lasts exactly as long as it was
meant to, and it begins less than a second before the delay is over
(`Duration.seconds_add`).

The wait is not cut off. So the look at what the stake has come to is never too
early: it comes when the transaction is accepted or when the delay and the grace
are over, whichever is later (`StakeKind.minutes_afterAcceptance`). Both ways of
staking are one program here, with what is handed in and what is looked at as
its parts.
-/

namespace LedgerNet

/-! ## Seconds -/

namespace Duration

/-- **A period of whole seconds is not cut off**, whatever it begins with. -/
theorem seconds_add (start period : Duration) {seconds : Nat} (h : period = .ofSeconds seconds) :
    Duration.seconds ⟨start.nanos + period.nanos⟩ = start.seconds + seconds := by
  subst h
  exact Nat.add_mul_div_right _ _ (by decide)

/-- Less than a second is cut off. -/
theorem seconds_le (d : Duration) : d.seconds * nanosPerSecond ≤ d.nanos :=
  Nat.div_mul_le_self _ _

theorem lt_seconds (d : Duration) : d.nanos < d.seconds * nanosPerSecond + nanosPerSecond :=
  Nat.lt_div_mul_add (by decide)

end Duration

/-! ## The two ways of staking -/

/-- **A way of staking.** -/
inductive StakeKind where
  | validation
  /-- The stake goes to a validator. -/
  | delegation (validator : String)

namespace StakeKind

variable {κ : Type} (kind : StakeKind) (node : Participant κ) (amounts : StakeAmounts)

/-- The program of a stake. -/
def program : Attempt (Timed (Clients κ)) StakingError Unit :=
  match kind with
  | validation => node.becomeValidator amounts
  | delegation validator => node.becomeDelegator amounts validator

/-- How long the seed's export is waited for. -/
def exportSettings : PollSettings :=
  match kind with
  | validation => node.settings.exportAcceptance
  | delegation _ => node.settings.acceptance

/-- Who validates. -/
def validatorId : String :=
  match kind with
  | validation => node.nodeId
  | delegation validator => validator

/-- How long the stake lasts. -/
def period : Duration :=
  match kind with
  | validation => node.settings.schedule.validationPeriod
  | delegation _ => node.settings.schedule.delegationPeriod

/-- What is handed in for a request. -/
def submission (request : StakeRequest) : Call :=
  match kind with
  | validation => .addValidator node.user request node.settings.schedule.feeRate
  | delegation _ => .addDelegator node.user request

/-- Hands in a request. -/
def submit (request : StakeRequest) : Attempt (Timed (Clients κ)) StakingError TxId :=
  match kind with
  | validation => node.call (.addValidator node.user request node.settings.schedule.feeRate)
  | delegation _ => node.call (.addDelegator node.user request)

/-- The request that is made at a time of day. -/
def request (timeOfDay : Duration) : StakeRequest where
  nodeId := kind.validatorId node
  rewardAddress := node.pAddress
  stake := amounts.stake
  start := Duration.seconds ⟨timeOfDay.nanos + node.settings.schedule.startDelay.nanos⟩
  finish := Duration.seconds ⟨timeOfDay.nanos + node.settings.schedule.startDelay.nanos
    + (kind.period node).nanos⟩

/-- What is looked at when the stake has begun: the validators, or the balance
that a delegator is left with. -/
def look : Call :=
  match kind with
  | validation => .validators
  | delegation _ => .pBalance node.pAddress

/-- The look at what the stake has come to, and all after it. -/
def conclude : Attempt (Timed (Clients κ)) StakingError Unit :=
  match kind with
  | validation => do
    let validators : List Validator ← node.call .validators
    if validators.any (·.nodeId == node.nodeId) then
      node.expect .p (← Attempt.ofChecked amounts.pAfterStake)
    else .fail (.validatorMissing node.nodeId (validators.map Validator.nodeId))
  | delegation _ => do
    node.expect .p (← Attempt.ofChecked amounts.pAfterStake)

/-- What follows when a request is accepted. -/
def afterAcceptance (begins : Duration) : Attempt (Timed (Clients κ)) StakingError Unit := do
  node.awaitBegin begins
  kind.conclude node amounts

/-- What follows the seed. -/
def afterSeed : Attempt (Timed (Clients κ)) StakingError Unit := do
  let (request, begins) ← node.stakeRequest (kind.validatorId node) amounts.stake (kind.period node)
  let tx ← kind.submit node request
  node.awaitTx .p tx node.settings.acceptance
  kind.afterAcceptance node amounts begins

/-- **A stake is one program**, whichever way it is. -/
theorem program_eq : kind.program node amounts = (do
    node.seed amounts (kind.exportSettings node)
    kind.afterSeed node amounts) := by
  cases kind <;> rfl

end StakeKind

/-! ## Requests and waits -/

section Run

variable {σ κ : Type} {round : Duration → Duration} {answer : Proc.Handler (Clients κ) σ}
  {node : Participant κ} {amounts : StakeAmounts} {kind : StakeKind} {t t' : Timeline σ}

/-- A pause until a point in time is over at that point, or at once if it has
passed, as far as the clock can show it. -/
theorem Timeline.runOn_sleepUntil {Q : Interface.{0}} {ε : Type} {answer : Proc.Handler Q σ}
    (hround : ∀ d, d.nanos ≤ (round d).nanos) (instant : Duration) :
    (sleepUntil instant : Attempt (Timed Q) ε Unit).runOn (handlerOn round answer) t
      = (.ok (), { t with now := round ⟨max t.now.nanos instant.nanos⟩ }) := by
  have hend : t.now.nanos + (instant.minusOrZero t.now).nanos = max t.now.nanos instant.nanos := by
    unfold Duration.minusOrZero
    dsimp only
    omega
  unfold sleepUntil
  rw [Attempt.runOn_bind_ok runOn_elapsed, runOn_sleep, hend]
  have hlate := hround ⟨max t.now.nanos instant.nanos⟩
  refine congrArg (fun nanos => (_, { t with now := ⟨nanos⟩ })) (Nat.max_eq_right ?_)
  exact Nat.le_trans (Nat.le_max_left _ _) hlate

namespace Participant

/-- **The request for a stake**, if its times do not overflow. -/
theorem runOn_stakeRequest {nodeId : String} {amount : Amount} {period : Duration}
    (hfinish : t.epoch.nanos + t.now.nanos + node.settings.schedule.startDelay.nanos + period.nanos
      < Duration.limit)
    (hbegins : t.now.nanos + node.settings.schedule.startDelay.nanos < Duration.instantLimit) :
    (node.stakeRequest nodeId amount period).runOn (Timeline.handlerOn round answer) t
      = (.ok (⟨nodeId, node.pAddress, amount,
          Duration.seconds ⟨t.epoch.nanos + t.now.nanos + node.settings.schedule.startDelay.nanos⟩,
          Duration.seconds ⟨t.epoch.nanos + t.now.nanos + node.settings.schedule.startDelay.nanos
            + period.nanos⟩⟩,
          ⟨t.now.nanos + node.settings.schedule.startDelay.nanos⟩), t) := by
  have hstart : Duration.plus ⟨t.epoch.nanos + t.now.nanos⟩ node.settings.schedule.startDelay
      = .ok ⟨t.epoch.nanos + t.now.nanos + node.settings.schedule.startDelay.nanos⟩ :=
    if_pos (by dsimp only; omega)
  have hend : Duration.plus
      ⟨t.epoch.nanos + t.now.nanos + node.settings.schedule.startDelay.nanos⟩ period
      = .ok ⟨t.epoch.nanos + t.now.nanos + node.settings.schedule.startDelay.nanos
        + period.nanos⟩ := if_pos hfinish
  have hlater : t.now.later node.settings.schedule.startDelay
      = .ok ⟨t.now.nanos + node.settings.schedule.startDelay.nanos⟩ := if_pos hbegins
  unfold stakeRequest
  refine (Attempt.runOn_bind_ok Timeline.runOn_timeOfDay).trans ?_
  refine (Attempt.runOn_ofChecked_bind hstart).trans ?_
  refine (Attempt.runOn_ofChecked_bind hend).trans ?_
  refine (Attempt.runOn_bind_ok Timeline.runOn_elapsed).trans ?_
  exact Attempt.runOn_ofChecked_bind hlater

/-- A request asks nothing. -/
theorem minutes_stakeRequest (nodeId : String) (amount : Amount) (period : Duration)
    (t : Timeline σ) :
    (node.stakeRequest nodeId amount period).minutes (Timeline.handlerOn round answer) t = [] :=
  List.map_eq_nil_iff.1 (node.talk_stakeRequest (Attempt.talk_minutes _ _ t)).1

/-- **The wait for a stake to begin** is over when the delay and the grace are,
or at once. -/
theorem runOn_awaitBegin (hround : ∀ d, d.nanos ≤ (round d).nanos) {begins : Duration}
    (hfits : begins.nanos + node.settings.schedule.startGrace.nanos < Duration.instantLimit) :
    (node.awaitBegin begins).runOn (Timeline.handlerOn round answer) t
      = (.ok (), { t with now := round ⟨max t.now.nanos
          (begins.nanos + node.settings.schedule.startGrace.nanos)⟩ }) := by
  have hlater : begins.later node.settings.schedule.startGrace
      = .ok ⟨begins.nanos + node.settings.schedule.startGrace.nanos⟩ := if_pos hfits
  unfold awaitBegin
  rw [Attempt.runOn_ofChecked_bind hlater, Timeline.runOn_sleepUntil hround]

/-- What is read from the reply when a call was answered. -/
theorem read?_of_runOn_call {call : Call} {result : call.Result} {α : Type}
    (read : (call : Call) → call.Result → Option α)
    (h : (node.call call).runOn (Timeline.handlerOn round answer) t = (.ok result, t')) :
    (⟨(node.client, call), (answer (node.client, call) t.world).1⟩ :
        Exchange (Clients κ)).read? read = read call result ∧ t'.now = t.now := by
  have hcall := Attempt.runOn_wrap_eq_ok_iff.1 h
  rw [Timeline.runOn_callNode] at hcall
  obtain ⟨hreply, rfl⟩ := Prod.mk.inj hcall
  refine ⟨?_, rfl⟩
  unfold Exchange.read?
  dsimp only
  rw [hreply]

/-- A call is on the minutes. -/
theorem minutes_call (call : Call) (t : Timeline σ) :
    (node.call call).minutes (Timeline.handlerOn round answer) t
      = [⟨t.now, (node.client, call), (answer (node.client, call) t.world).1⟩] :=
  Attempt.minutes_wrap _

/-- **How a wait for a transaction is on the minutes**: if it ends well, up to the
first reply that the transaction is accepted, at the time of its end. -/
theorem minutes_awaitTx {lane : Lane} (hlane : lane ≠ .c) {tx : TxId} {settings : PollSettings}
    (h : (node.awaitTx lane tx settings).runOn (Timeline.handlerOn round answer) t = (.ok (), t')) :
    ∃ before last, (node.awaitTx lane tx settings).minutes (Timeline.handlerOn round answer) t
        = before ++ [last]
      ∧ (∀ earlier ∈ before, ¬ earlier.exchange.IsAccepted)
      ∧ last.exchange.question = (node.client, Acceptance.statusCall tx lane)
      ∧ last.exchange.IsAccepted ∧ last.time = t'.now := by
  unfold awaitTx at h ⊢
  rw [Attempt.minutes_wrap]
  exact Acceptance.minutes_await hlane (Attempt.runOn_wrap_eq_ok_iff.1 h)

/-- A wait for a transaction that fails had no reply that it is accepted. -/
theorem not_isAccepted_of_awaitTx {lane : Lane} (hlane : lane ≠ .c) {tx : TxId}
    {settings : PollSettings} {cause : Failure StakingError}
    (h : (node.awaitTx lane tx settings).runOn (Timeline.handlerOn round answer) t
      = (.error cause, t')) :
    ∀ asked ∈ (node.awaitTx lane tx settings).minutes (Timeline.handlerOn round answer) t,
      ¬ asked.exchange.IsAccepted := by
  unfold awaitTx at h ⊢
  rw [Attempt.minutes_wrap]
  obtain ⟨_, hfailed, -⟩ := Attempt.runOn_wrap_eq_error_iff.1 h
  exact Acceptance.not_isAccepted_of_error hlane hfailed

/-- A seed that has arrived was checked before it was sent. -/
theorem valid_of_seed {settings : PollSettings}
    (h : (node.seed amounts settings).runOn (Timeline.handlerOn round answer) t = (.ok (), t')) :
    amounts.validateStake = .ok () := by
  unfold seed at h
  obtain ⟨_, later, hcheck, -, -⟩ := Attempt.exists_of_bind_ok h
  cases hvalid : amounts.validateStake with
  | ok _ => rfl
  | error cause =>
    rw [hvalid] at hcheck
    cases hcheck

/-- A balance on the platform lane is compared by asking for it. -/
theorem minutes_expect (expected : Amount) (t : Timeline σ) :
    ∃ reply rest, (node.expect .p expected).minutes (Timeline.handlerOn round answer) t
      = ⟨t.now, (node.client, .pBalance node.pAddress), reply⟩ :: rest := by
  have hasked : ((nodeBalance node.client .p node.settings.asset node.pAddress).wrap
      (BalanceError.query .p node.pAddress)).minutes (Timeline.handlerOn round answer) t
      = [⟨t.now, (node.client, .pBalance node.pAddress),
        (answer (node.client, .pBalance node.pAddress) t.world).1⟩] :=
    (Attempt.minutes_wrap _).trans (Attempt.minutes_map _)
  obtain ⟨rest, hrest⟩ := Attempt.exists_minutes_bind _ _ t
  exact ⟨_, rest, (Attempt.minutes_wrap _).trans (hrest.trans (congrArg (· ++ rest) hasked))⟩

end Participant

namespace StakeKind

/-- **A request is handed in** by one call, which takes no time. -/
theorem minutes_submit (request : StakeRequest) (t : Timeline σ) :
    ∃ exchange, (kind.submit node request).minutes (Timeline.handlerOn round answer) t
        = [⟨t.now, exchange⟩]
      ∧ exchange.question = (node.client, kind.submission node request)
      ∧ ∀ tx t', (kind.submit node request).runOn (Timeline.handlerOn round answer) t
          = (.ok tx, t') → exchange.tx? = some tx ∧ t'.now = t.now := by
  cases kind with
  | validation | delegation validator =>
    exact ⟨_, Participant.minutes_call _ t, rfl,
      fun tx t' h => Participant.read?_of_runOn_call Call.tx? h⟩

/-- **The look comes first** of all that follows the wait. -/
theorem minutes_conclude (hvalid : amounts.validateStake = .ok ()) (t : Timeline σ) :
    ∃ reply rest, (kind.conclude node amounts).minutes (Timeline.handlerOn round answer) t
      = ⟨t.now, (node.client, kind.look node), reply⟩ :: rest := by
  cases kind with
  | validation =>
    obtain ⟨rest, hrest⟩ := Attempt.exists_minutes_bind (node.call .validators) _ t
    exact ⟨_, rest, hrest.trans (congrArg (· ++ rest) (Participant.minutes_call _ t))⟩
  | delegation validator =>
    obtain ⟨hrest, -⟩ := StakeAmounts.pAfterStake_of_valid hvalid
    obtain ⟨reply, rest, hminutes⟩ := Participant.minutes_expect (amounts.seed - amounts.stake) t
    exact ⟨reply, rest, (Attempt.minutes_ofChecked_bind hrest).trans hminutes⟩

/-- **The look comes when the wait is over.** -/
theorem minutes_afterAcceptance (kind : StakeKind) (hround : ∀ d, d.nanos ≤ (round d).nanos)
    (hvalid : amounts.validateStake = .ok ()) {begins : Duration}
    (hfits : begins.nanos + node.settings.schedule.startGrace.nanos < Duration.instantLimit)
    (t : Timeline σ) :
    ∃ reply rest,
      (kind.afterAcceptance node amounts begins).minutes (Timeline.handlerOn round answer) t
        = ⟨round ⟨max t.now.nanos (begins.nanos + node.settings.schedule.startGrace.nanos)⟩,
          (node.client, kind.look node), reply⟩ :: rest := by
  obtain ⟨reply, rest, hlook⟩ := minutes_conclude hvalid { t with
    now := round ⟨max t.now.nanos (begins.nanos + node.settings.schedule.startGrace.nanos)⟩ }
  refine ⟨reply, rest, ?_⟩
  unfold afterAcceptance
  rw [Attempt.minutes_bind_ok (Participant.runOn_awaitBegin hround hfits),
    (node.silent_awaitBegin begins).minutes_eq, List.nil_append]
  exact hlook

/-- **The look is on time**: the first reply that the transaction is accepted is
followed by the look, when the stake has begun and the grace is over, or at
once. -/
theorem look_of_isAccepted (hround : ∀ d, d.nanos ≤ (round d).nanos)
    (hvalid : amounts.validateStake = .ok ()) {begins : Duration}
    (hfits : begins.nanos + node.settings.schedule.startGrace.nanos < Duration.instantLimit)
    {tx : TxId} (t : Timeline σ) {asked more : List (Stamped (Clients κ))}
    {accepted : Stamped (Clients κ)}
    (hminutes : (node.awaitTx .p tx node.settings.acceptance >>= fun _ =>
        kind.afterAcceptance node amounts begins).minutes (Timeline.handlerOn round answer) t
      = asked ++ accepted :: more)
    (hasked : ∀ earlier ∈ asked, ¬ earlier.exchange.IsAccepted)
    (haccepted : accepted.exchange.IsAccepted) :
    accepted.exchange.question = (node.client, .pStatus tx)
      ∧ ∃ look rest, more = look :: rest
        ∧ look.exchange.question = (node.client, kind.look node)
        ∧ look.time = round ⟨max accepted.time.nanos
          (begins.nanos + node.settings.schedule.startGrace.nanos)⟩ := by
  have hlane : Lane.p ≠ .c := by decide
  rcases hrun : (node.awaitTx .p tx node.settings.acceptance).runOn
    (Timeline.handlerOn round answer) t with ⟨cause | _, t'⟩
  · rw [Attempt.minutes_bind_error hrun] at hminutes
    have hmem : accepted ∈ asked ++ accepted :: more :=
      List.mem_append_right _ List.mem_cons_self
    exact absurd haccepted
      (Participant.not_isAccepted_of_awaitTx hlane hrun accepted (hminutes ▸ hmem))
  · obtain ⟨before, last, hwait, hopen, hquestion, hlast, htime⟩ :=
      Participant.minutes_awaitTx hlane hrun
    obtain ⟨reply, rest, hlook⟩ := minutes_afterAcceptance kind hround hvalid hfits t'
    rw [Attempt.minutes_bind_ok hrun, hwait, hlook, List.append_assoc] at hminutes
    obtain ⟨rfl, rfl, rfl⟩ := append_cons_inj_of_first hminutes hopen hasked hlast haccepted
    exact ⟨hquestion, _, rest, rfl, rfl, by rw [htime]⟩

/-- **What follows the seed**: the request, and all else if there is a
transaction to be waited for. -/
theorem minutes_afterSeed (round : Duration → Duration) (answer : Proc.Handler (Clients κ) σ)
    (amounts : StakeAmounts) (kind : StakeKind)
    (hfinish : t.epoch.nanos + t.now.nanos + node.settings.schedule.startDelay.nanos
      + (kind.period node).nanos < Duration.limit)
    (hbegins : t.now.nanos + node.settings.schedule.startDelay.nanos < Duration.instantLimit) :
    ∃ exchange after, (kind.afterSeed node amounts).minutes (Timeline.handlerOn round answer) t
        = ⟨t.now, exchange⟩ :: after
      ∧ exchange.question = (node.client,
        kind.submission node (kind.request node amounts ⟨t.epoch.nanos + t.now.nanos⟩))
      ∧ (after = [] ∨ ∃ tx t', exchange.tx? = some tx
        ∧ after = (node.awaitTx .p tx node.settings.acceptance >>= fun _ =>
          kind.afterAcceptance node amounts
            ⟨t.now.nanos + node.settings.schedule.startDelay.nanos⟩).minutes
              (Timeline.handlerOn round answer) t') := by
  obtain ⟨exchange, hsubmit, hquestion, htx⟩ := minutes_submit
    (kind.request node amounts ⟨t.epoch.nanos + t.now.nanos⟩) t
  unfold afterSeed
  rw [Attempt.minutes_bind_ok (Participant.runOn_stakeRequest hfinish hbegins),
    Participant.minutes_stakeRequest, List.nil_append]
  rcases hrun : (kind.submit node (kind.request node amounts
    ⟨t.epoch.nanos + t.now.nanos⟩)).runOn (Timeline.handlerOn round answer) t
    with ⟨cause | tx, t'⟩
  · exact ⟨exchange, [], (Attempt.minutes_bind_error hrun).trans hsubmit, hquestion, Or.inl rfl⟩
  · refine ⟨exchange, _, (Attempt.minutes_bind_ok hrun).trans (congrArg (· ++ _) hsubmit),
      hquestion, Or.inr ⟨tx, t', (htx tx t' hrun).1, rfl⟩⟩

end StakeKind

end Run

namespace StakeKind

/-- A node that accepts a validator when it is asked for it again. -/
def hesitant : Proc.Handler (Clients Unit) Nat
  | (_, .xExport _ _ _), questions => (.ok "export", questions)
  | (_, .pImport _ _ _), questions => (.ok "import", questions)
  | (_, .addValidator _ _ _), _ => (.ok "stake", 1)
  | (_, .xStatus _), questions => (.ok .accepted, questions)
  | (_, .pStatus _), 1 => (.ok ⟨.processing, none⟩, 2)
  | (_, .pStatus _), questions => (.ok ⟨.committed, none⟩, questions)
  | (_, .xBalance _ _), questions => (.ok 480, questions)
  | (_, .pBalance _), questions => (.ok (if questions = 0 then 500 else 100), questions)
  | (_, .validators), questions => (.ok [⟨"NodeID-a", none, none, none⟩], questions)
  | (_, call), questions => (Outcome.failed (.unsupported call.method), questions)

/-- A participant whose stakes begin ten seconds and a millisecond after the
request. -/
def unhurried : Participant Unit where
  id := "a"
  ip := .v4 (.ofOctets 10 0 0 1)
  client := ()
  user := ⟨"ann", "pw"⟩
  nodeId := "NodeID-a"
  xAddress := "X-a"
  pAddress := "P-a"
  settings := {
    chainIds := .localNet
    acceptance := ⟨.ofSeconds 7, .ofSeconds 60⟩
    exportAcceptance := ⟨.ofSeconds 7, .ofSeconds 60⟩
    schedule := ⟨.ofMillis 10001, .ofSeconds 5, .ofSeconds 3600, .ofSeconds 3600, .two⟩ }

/-- A quarter of a second after a whole one. -/
def quarterPast : Timeline Nat := ⟨⟨1700000000250000000⟩, .zero, 0⟩

end StakeKind

end LedgerNet
