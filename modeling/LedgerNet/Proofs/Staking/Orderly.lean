import LedgerNet.Proofs.Staking.Amounts
import LedgerNet.Proofs.Staking.Stages
import LedgerNet.Staking.Participant
import Mathlib.Data.List.Basic

/-!
# No step of a participant runs early or twice

A participant becomes a validator, becomes a delegator or brings back what
it did not bond. Each of these is a row of stages, and the conversations of
the program are those of the row (`Carries`), whatever the node replies and
whatever the clocks show. So what holds of every such conversation holds of
every run against every node.
-/

namespace LedgerNet

/-- **What a participant can be asked to do.** -/
inductive StakingTask where
  | validate
  | delegate (validator : String)
  | returnLeftover
  deriving DecidableEq, Repr

namespace StakingTask

variable {κ : Type}

/-- The program of a task. -/
def program (node : Participant κ) (amounts : StakeAmounts) :
    StakingTask → Attempt (Timed (Clients κ)) StakingError Unit
  | validate => node.becomeValidator amounts
  | delegate validator => node.becomeDelegator amounts validator
  | returnLeftover => node.returnLeftover amounts

/-- The check that the amounts of a task have to pass. -/
def check (amounts : StakeAmounts) : StakingTask → Except AmountsError Unit
  | validate | delegate _ => amounts.validateStake
  | returnLeftover => amounts.validateLeftover

/-- What a task hands in, by name. -/
def transactions : StakingTask → List String
  | validate => ["avm.exportAVAX", "platform.importAVAX", "platform.addValidator"]
  | delegate _ => ["avm.exportAVAX", "platform.importAVAX", "platform.addDelegator"]
  | returnLeftover => ["platform.exportAVAX", "avm.importAVAX"]

/-- The stages in which the seed is moved to the platform lane. -/
def seedStages (node : Participant κ) (amounts : StakeAmounts) : List Stage :=
  [.transaction .x (.xExport node.user (amounts.seed + amounts.fee) node.pAddress),
    .transaction .p (.pImport node.user node.pAddress (node.settings.chainIds.ofLane .x)),
    .holding .p node.pAddress node.settings.asset amounts.seed.toNat,
    .holding .x node.xAddress node.settings.asset
      (amounts.total.toNat - amounts.seed.toNat - 2 * amounts.fee.toNat)]

/-- **The stages of a task**, for a stake from a second to another. -/
def stages (node : Participant κ) (amounts : StakeAmounts) (start finish : Nat) :
    StakingTask → List Stage
  | validate => seedStages node amounts ++
    [.transaction .p (.addValidator node.user
        ⟨node.nodeId, node.pAddress, amounts.stake, start, finish⟩
        node.settings.schedule.feeRate),
      .listing node.nodeId,
      .holding .p node.pAddress node.settings.asset (amounts.seed.toNat - amounts.stake.toNat)]
  | delegate validator => seedStages node amounts ++
    [.transaction .p (.addDelegator node.user
        ⟨validator, node.pAddress, amounts.stake, start, finish⟩),
      .holding .p node.pAddress node.settings.asset (amounts.seed.toNat - amounts.stake.toNat)]
  | returnLeftover =>
    [.transaction .p (.pExport node.user node.xAddress
        (amounts.seed - amounts.stake - amounts.fee)),
      .transaction .x (.xImport node.user node.xAddress (node.settings.chainIds.ofLane .p)),
      .holding .p node.pAddress node.settings.asset 0,
      .holding .x node.xAddress node.settings.asset
        (amounts.total.toNat - amounts.stake.toNat - 4 * amounts.fee.toNat)]

end StakingTask

/-! ## Programs that carry stages -/

/-- **A program carries a row of stages** when all of its conversations are
conversations of the row. -/
def Carries {κ : Type} (client : κ) (p : Attempt (Timed (Clients κ)) StakingError Unit)
    (stages : List Stage) : Prop :=
  ∀ log outcome, p.Talk log outcome → Course client stages log outcome

namespace Carries

variable {κ α : Type} {client : κ} {p next : Attempt (Timed (Clients κ)) StakingError Unit}
  {stages more : List Stage}

/-- A program after another carries the stages of both. -/
theorem bind (h : Carries client p stages) (hnext : Carries client next more) :
    Carries client (p >>= fun _ => next) (stages ++ more) := by
  intro log outcome htalk
  obtain ⟨cause, hp, rfl⟩ | ⟨_, before, after, rfl, hp, hafter⟩ := Attempt.talk_bind.1 htalk
  · exact (h _ _ hp).append_of_error more
  · exact (h _ _ hp).append (hnext _ _ hafter)

/-- A silent program can stand before any stages. -/
theorem silent_bind {p : Attempt (Timed (Clients κ)) StakingError α}
    {next : α → Attempt (Timed (Clients κ)) StakingError Unit} (h : p.Silent)
    (hnext : ∀ value, Carries client (next value) stages) :
    Carries client (p >>= next) stages := by
  intro log outcome htalk
  obtain ⟨rfl, cause, rfl⟩ | ⟨value, -, hvalue⟩ := h.talk_bind htalk
  · exact Course.crashed stages cause
  · exact hnext value _ _ hvalue

/-- A computation that has a value can stand before any stages. -/
theorem ofChecked_bind {checked : Checked α} {value : α} (h : checked = .ok value)
    {next : α → Attempt (Timed (Clients κ)) StakingError Unit}
    (hnext : Carries client (next value) stages) :
    Carries client (Attempt.ofChecked checked >>= next) stages := by
  rw [h]
  exact hnext

/-- A check that is passed can stand before any stages. -/
theorem ofExcept_bind {result : Except StakingError α} {value : α} (h : result = .ok value)
    {next : α → Attempt (Timed (Clients κ)) StakingError Unit}
    (hnext : Carries client (next value) stages) :
    Carries client (Attempt.ofExcept result >>= next) stages := by
  rw [h]
  exact hnext

end Carries

namespace Participant

variable {κ : Type} (node : Participant κ) {stages : List Stage}

/-- A call as a step is one exchange. -/
theorem talk_call {call : Call} {log : List (Exchange (Clients κ))}
    {outcome : Outcome StakingError call.Result} (h : (node.call call).Talk log outcome) :
    ∃ reply : Outcome ApiError call.Result, log = [⟨(node.client, call), reply⟩]
      ∧ outcome = reply.mapError (Failure.map (.api call.method)) := by
  obtain ⟨reply, hreply, rfl⟩ := Attempt.talk_wrap.1 h
  exact ⟨reply, Attempt.talk_callNode.1 hreply, rfl⟩

/-- **Handing in a transaction and waiting for it** carries a stage. -/
theorem carries_transaction {lane : Lane} (hlane : lane ≠ .c) (call : Call)
    (toTx : call.Result → TxId) (htx : ∀ result, call.tx? result = some (toTx result))
    (settings : PollSettings) {rest : Attempt (Timed (Clients κ)) StakingError Unit}
    (hrest : Carries node.client rest stages) :
    Carries node.client
      (node.call call >>= fun result => node.awaitTx lane (toTx result) settings >>= fun _ => rest)
      (.transaction lane call :: stages) := by
  intro log outcome htalk
  obtain ⟨cause, hcall, rfl⟩ | ⟨result, before, waited, rfl, hcall, hboth⟩ :=
    Attempt.talk_bind.1 htalk
  · obtain ⟨reply, rfl, hcause⟩ := node.talk_call hcall
    cases reply with
    | ok result => cases hcause
    | error failure => exact Course.failed cause rfl (Or.inl ⟨rfl, rfl⟩)
  · obtain ⟨reply, rfl, hresult⟩ := node.talk_call hcall
    cases reply with
    | error failure => cases hresult
    | ok found =>
      obtain rfl := Except.ok.inj hresult
      have hfirst : (⟨(node.client, call), .ok result⟩ : Exchange (Clients κ)).tx?
          = some (toTx result) := htx result
      obtain ⟨cause, hwait, rfl⟩ | ⟨_, wait, after, rfl, hwait, hafter⟩ :=
        Attempt.talk_bind.1 hboth
      · obtain ⟨ended, hended, hcause⟩ := Attempt.talk_wrap.1 hwait
        obtain ⟨rfl, -⟩ | ⟨failure, rfl, hgiven⟩ := Acceptance.talk_await hlane hended
        · cases hcause
        · exact Course.failed cause rfl (Or.inr ⟨_, hfirst, hgiven⟩)
      · obtain ⟨ended, hended, hok⟩ := Attempt.talk_wrap.1 hwait
        obtain ⟨rfl, hseen⟩ | ⟨failure, rfl, -⟩ := Acceptance.talk_await hlane hended
        · have hcourse : Course node.client (.transaction lane call :: stages)
              (⟨(node.client, call), .ok result⟩ :: wait ++ after) outcome :=
            Course.passed rfl ⟨_, hfirst, hseen⟩ (hrest _ _ hafter)
          exact hcourse
        · cases hok

/-- A question for a balance is one exchange, and its reply is what was
found. -/
theorem talk_nodeBalance {client : κ} {lane : Lane} {address asset : String}
    {log : List (Exchange (Clients κ))} {outcome : Outcome ApiError Nat}
    (h : (nodeBalance client lane asset address).Talk log outcome) :
    ∃ exchange, log = [exchange]
      ∧ exchange.question = (client, Call.ofBalance lane address asset)
      ∧ exchange.balance? = outcome.toOption := by
  cases lane with
  | x =>
    obtain ⟨reply, hreply, rfl⟩ := Attempt.talk_map.1 h
    refine ⟨_, Attempt.talk_callNode.1 hreply, rfl, ?_⟩
    cases reply <;> rfl
  | p =>
    obtain ⟨reply, hreply, rfl⟩ := Attempt.talk_map.1 h
    refine ⟨_, Attempt.talk_callNode.1 hreply, rfl, ?_⟩
    cases reply <;> rfl
  | c =>
    refine ⟨_, Attempt.talk_callNode.1 h, rfl, ?_⟩
    cases outcome <;> rfl

/-- What a balance check asks, and when it ends well. -/
theorem talk_check {client : κ} {lane : Lane} {address asset : String} {expected : Nat}
    {log : List (Exchange (Clients κ))} {outcome : Outcome BalanceError Unit}
    (h : (Balance.check (nodeBalance client lane asset) lane address expected).Talk log outcome) :
    ∃ exchange, log = [exchange]
      ∧ exchange.question = (client, Call.ofBalance lane address asset)
      ∧ ((outcome = .ok () ∧ exchange.balance? = some expected)
        ∨ ∃ cause, outcome = .error cause ∧ exchange.balance? ≠ some expected) := by
  obtain ⟨cause, hasked, rfl⟩ | ⟨actual, before, after, rfl, hasked, hcompared⟩ :=
    Attempt.talk_bind.1 h
  · obtain ⟨reply, hreply, hcause⟩ := Attempt.talk_wrap.1 hasked
    obtain ⟨exchange, rfl, hquestion, hbalance⟩ := talk_nodeBalance hreply
    refine ⟨exchange, rfl, hquestion, Or.inr ⟨cause, rfl, ?_⟩⟩
    cases reply with
    | ok actual => cases hcause
    | error failure =>
      rw [hbalance]
      exact nofun
  · obtain ⟨reply, hreply, hactual⟩ := Attempt.talk_wrap.1 hasked
    obtain ⟨exchange, rfl, hquestion, hbalance⟩ := talk_nodeBalance hreply
    cases reply with
    | error failure => cases hactual
    | ok found =>
      obtain rfl := Except.ok.inj hactual
      split at hcompared
      · rename_i heq
        obtain ⟨rfl, rfl⟩ := hcompared
        exact ⟨exchange, rfl, hquestion, Or.inl ⟨rfl, by rw [hbalance, heq]; rfl⟩⟩
      · rename_i hne
        obtain ⟨rfl, rfl⟩ := hcompared
        refine ⟨exchange, rfl, hquestion, Or.inr ⟨_, rfl, ?_⟩⟩
        rw [hbalance]
        exact fun heq => hne (Option.some.inj heq)

/-- **Comparing a balance** carries a stage. -/
theorem carries_expect (lane : Lane) (amount : Amount) :
    Carries node.client (node.expect lane amount)
      [.holding lane (node.addressOn lane) node.settings.asset amount.toNat] := by
  intro log outcome htalk
  obtain ⟨ended, hended, rfl⟩ := Attempt.talk_wrap.1 htalk
  obtain ⟨exchange, rfl, hquestion, ⟨rfl, hholds⟩ | ⟨cause, rfl, hdiffers⟩⟩ := talk_check hended
  · have hcourse : Course node.client
        [.holding lane (node.addressOn lane) node.settings.asset amount.toNat]
        ([exchange] ++ []) (.ok ()) :=
      Course.passed hquestion ⟨hholds, rfl⟩ Course.finished
    exact hcourse
  · exact Course.failed _ hquestion ⟨hdiffers, rfl⟩

theorem mem_nodeIds {validators : List Validator} {nodeId : String} :
    validators.any (·.nodeId == nodeId) = true ↔ nodeId ∈ validators.map Validator.nodeId := by
  rw [List.any_eq_true, List.mem_map]
  simp only [beq_iff_eq]

/-- **Finding the node among the validators** carries a stage. -/
theorem carries_listing {rest : Attempt (Timed (Clients κ)) StakingError Unit}
    (hrest : Carries node.client rest stages) :
    Carries node.client
      (node.call .validators >>= fun (validators : List Validator) =>
        if validators.any (·.nodeId == node.nodeId) then rest
        else .fail (.validatorMissing node.nodeId (validators.map Validator.nodeId)))
      (.listing node.nodeId :: stages) := by
  intro log outcome htalk
  obtain ⟨cause, hcall, rfl⟩ | ⟨found, before, after, rfl, hcall, hlooked⟩ :=
    Attempt.talk_bind.1 htalk
  · obtain ⟨reply, rfl, hcause⟩ := node.talk_call hcall
    cases reply with
    | ok result => cases hcause
    | error failure => exact Course.failed cause rfl ⟨nofun, rfl⟩
  · obtain ⟨reply, rfl, hfound⟩ := node.talk_call hcall
    cases reply with
    | error failure => cases hfound
    | ok validators =>
      obtain rfl := Except.ok.inj hfound
      have hids : (⟨(node.client, .validators), .ok found⟩ : Exchange (Clients κ)).validatorIds?
          = some (found.map Validator.nodeId) := rfl
      split at hlooked
      · rename_i hany
        have hcourse : Course node.client (.listing node.nodeId :: stages)
            (⟨(node.client, .validators), .ok found⟩ :: [] ++ after) outcome :=
          Course.passed rfl ⟨⟨_, hids, mem_nodeIds.1 hany⟩, rfl⟩ (hrest _ _ hlooked)
        exact hcourse
      · rename_i hany
        obtain ⟨rfl, rfl⟩ := hlooked
        refine Course.failed _ rfl ⟨fun ids hfound hmem => hany (mem_nodeIds.2 ?_), rfl⟩
        rwa [← Option.some.inj (hids.symm.trans hfound)] at hmem

/-- **Moving the seed** carries its four stages. -/
theorem carries_seed {amounts : StakeAmounts} (h : amounts.validateStake = .ok ())
    (settings : PollSettings) :
    Carries node.client (node.seed amounts settings) (StakingTask.seedStages node amounts) := by
  obtain ⟨hexport, -⟩ := StakeAmounts.seedExport_of_valid h
  obtain ⟨hafter, hn⟩ := StakeAmounts.xAfterSeed_of_valid h
  have hcheck : amounts.validateStake.mapError StakingError.amounts = .ok () := by rw [h]; rfl
  unfold seed StakingTask.seedStages
  rw [← hn]
  refine Carries.ofExcept_bind hcheck ?_
  refine Carries.ofChecked_bind hexport ?_
  have hx : Lane.x ≠ .c := by decide
  have hp : Lane.p ≠ .c := by decide
  refine node.carries_transaction hx (.xExport _ _ _) (fun tx => tx) (fun _ => rfl) _ ?_
  refine node.carries_transaction hp (.pImport _ _ _) (fun tx => tx) (fun _ => rfl) _ ?_
  refine (node.carries_expect .p amounts.seed).bind ?_
  exact Carries.ofChecked_bind hafter (node.carries_expect .x _)

/-- A request to stake is made in silence; it is for the given node and
amount, for times that the clock decides. -/
theorem talk_stakeRequest {nodeId : String} {amount : Amount} {period : Duration}
    {log : List (Exchange (Clients κ))} {outcome : Outcome StakingError (StakeRequest × Duration)}
    (h : (node.stakeRequest nodeId amount period).Talk log outcome) :
    log = [] ∧ ((∃ cause, outcome = Outcome.crashed cause)
      ∨ ∃ start finish begins,
        outcome = .ok (⟨nodeId, node.pAddress, amount, start, finish⟩, begins)) := by
  unfold stakeRequest at h
  obtain ⟨rfl, cause, rfl⟩ | ⟨now, -, h⟩ := Attempt.Silent.timeOfDay.talk_bind h
  · exact ⟨rfl, Or.inl ⟨cause, rfl⟩⟩
  obtain ⟨rfl, cause, rfl⟩ | ⟨start, -, h⟩ := (Attempt.Silent.ofChecked _).talk_bind h
  · exact ⟨rfl, Or.inl ⟨cause, rfl⟩⟩
  obtain ⟨rfl, cause, rfl⟩ | ⟨finish, -, h⟩ := (Attempt.Silent.ofChecked _).talk_bind h
  · exact ⟨rfl, Or.inl ⟨cause, rfl⟩⟩
  obtain ⟨rfl, cause, rfl⟩ | ⟨now, -, h⟩ := Attempt.Silent.elapsed.talk_bind h
  · exact ⟨rfl, Or.inl ⟨cause, rfl⟩⟩
  obtain ⟨rfl, cause, rfl⟩ | ⟨begins, -, h⟩ := (Attempt.Silent.ofChecked _).talk_bind h
  · exact ⟨rfl, Or.inl ⟨cause, rfl⟩⟩
  obtain ⟨rfl, rfl⟩ := h
  exact ⟨rfl, Or.inr ⟨start.seconds, finish.seconds, begins, rfl⟩⟩

/-- Waiting for a stake to begin asks nothing. -/
theorem silent_awaitBegin (begins : Duration) : (node.awaitBegin begins).Silent :=
  (Attempt.Silent.ofChecked _).bind fun _ =>
    Attempt.Silent.elapsed.bind fun _ => Attempt.Silent.sleep _

/-- **Moving the seed and asking for a stake** comes before the stages of the
stake itself. -/
theorem course_of_stake {amounts : StakeAmounts} (h : amounts.validateStake = .ok ())
    {settings : PollSettings} {nodeId : String} {period : Duration}
    {next : StakeRequest × Duration → Attempt (Timed (Clients κ)) StakingError Unit}
    {more : Nat → Nat → List Stage}
    (hnext : ∀ start finish begins, Carries node.client
      (next (⟨nodeId, node.pAddress, amounts.stake, start, finish⟩, begins)) (more start finish))
    {log : List (Exchange (Clients κ))} {outcome : Outcome StakingError Unit}
    (htalk : (node.seed amounts settings >>= fun _ =>
      node.stakeRequest nodeId amounts.stake period >>= next).Talk log outcome) :
    ∃ start finish, Course node.client
      (StakingTask.seedStages node amounts ++ more start finish) log outcome := by
  obtain ⟨cause, hseed, rfl⟩ | ⟨_, before, after, rfl, hseed, hstake⟩ := Attempt.talk_bind.1 htalk
  · -- the request was never made, so any times will do
    exact ⟨0, 0, (node.carries_seed h settings _ _ hseed).append_of_error _⟩
  have hseeded := node.carries_seed h settings _ _ hseed
  obtain ⟨cause, hasked, rfl⟩ | ⟨asked, silence, rest, rfl, hasked, hrest⟩ :=
    Attempt.talk_bind.1 hstake
  · obtain ⟨rfl, ⟨crash, hcrash⟩ | ⟨_, _, _, hnever⟩⟩ := node.talk_stakeRequest hasked
    · obtain rfl := Except.error.inj hcrash
      exact ⟨0, 0, hseeded.append (Course.crashed _ crash)⟩
    · cases hnever
  · obtain ⟨rfl, ⟨crash, hnever⟩ | ⟨start, finish, begins, hvalue⟩⟩ := node.talk_stakeRequest hasked
    · cases hnever
    · obtain rfl := Except.ok.inj hvalue
      exact ⟨start, finish, hseeded.append (hnext start finish begins _ _ hrest)⟩

/-- Comparing what is left after the stake carries a stage. -/
theorem carries_pAfterStake {amounts : StakeAmounts} (h : amounts.validateStake = .ok ()) :
    Carries node.client (do node.expect .p (← Attempt.ofChecked amounts.pAfterStake))
      [.holding .p node.pAddress node.settings.asset
        (amounts.seed.toNat - amounts.stake.toNat)] := by
  obtain ⟨hafter, hn⟩ := StakeAmounts.pAfterStake_of_valid h
  rw [← hn]
  exact Carries.ofChecked_bind hafter (node.carries_expect .p _)

/-- **The conversation of becoming a validator.** -/
theorem course_becomeValidator {amounts : StakeAmounts} (h : amounts.validateStake = .ok ())
    {log : List (Exchange (Clients κ))} {outcome : Outcome StakingError Unit}
    (htalk : (node.becomeValidator amounts).Talk log outcome) :
    ∃ start finish,
      Course node.client (StakingTask.validate.stages node amounts start finish) log outcome := by
  refine node.course_of_stake h (fun start finish begins => ?_) htalk
  have hp : Lane.p ≠ .c := by decide
  refine node.carries_transaction hp (.addValidator _ _ _) (fun tx => tx) (fun _ => rfl) _ ?_
  refine Carries.silent_bind (node.silent_awaitBegin begins) fun _ => ?_
  exact node.carries_listing (node.carries_pAfterStake h)

/-- **The conversation of becoming a delegator.** -/
theorem course_becomeDelegator {amounts : StakeAmounts} (h : amounts.validateStake = .ok ())
    {validator : String} {log : List (Exchange (Clients κ))} {outcome : Outcome StakingError Unit}
    (htalk : (node.becomeDelegator amounts validator).Talk log outcome) :
    ∃ start finish, Course node.client
      ((StakingTask.delegate validator).stages node amounts start finish) log outcome := by
  refine node.course_of_stake h (fun start finish begins => ?_) htalk
  have hp : Lane.p ≠ .c := by decide
  refine node.carries_transaction hp (.addDelegator _ _) (fun tx => tx) (fun _ => rfl) _ ?_
  refine Carries.silent_bind (node.silent_awaitBegin begins) fun _ => ?_
  exact node.carries_pAfterStake h

/-- **The conversation of bringing the rest back.** -/
theorem carries_returnLeftover {amounts : StakeAmounts} (h : amounts.validateLeftover = .ok ())
    (start finish : Nat) :
    Carries node.client (node.returnLeftover amounts)
      (StakingTask.returnLeftover.stages node amounts start finish) := by
  obtain ⟨hexport, -⟩ := StakeAmounts.leftoverExport_of_valid h
  obtain ⟨held, hheld, hn⟩ := StakeAmounts.xAfterLeftover_of_valid h
  have hcheck : amounts.validateLeftover.mapError StakingError.amounts = .ok () := by
    rw [h]
    rfl
  have hx : Lane.x ≠ .c := by decide
  have hp : Lane.p ≠ .c := by decide
  unfold returnLeftover StakingTask.stages
  rw [← hn]
  refine Carries.ofExcept_bind hcheck ?_
  refine Carries.ofChecked_bind hexport ?_
  refine node.carries_transaction hp (.pExport _ _ _) (fun tx => tx) (fun _ => rfl) _ ?_
  refine node.carries_transaction hx (.xImport _ _ _) (fun tx => tx) (fun _ => rfl) _ ?_
  refine (node.carries_expect .p 0).bind ?_
  exact Carries.ofChecked_bind hheld (node.carries_expect .x held)

end Participant

/-! ## The order of things -/

/-- Whether a call asks for a stake. -/
def Call.stakes : Call → Bool
  | addValidator _ _ _ | addDelegator _ _ => true
  | _ => false

theorem Call.handsIn_of_stakes {call : Call} (h : call.stakes = true) : call.handsIn = true := by
  cases call <;> first | rfl | exact absurd h Bool.false_ne_true

/-- The last two replies report the seed on the platform lane, and on the
exchange lane what is left when it is gone. -/
def Backed {κ : Type} (node : Participant κ) (amounts : StakeAmounts)
    (log : List (Exchange (Clients κ))) : Prop :=
  ∃ before onP onX, log = before ++ [onP, onX]
    ∧ onP.question = (node.client, .pBalance node.pAddress)
    ∧ onP.balance? = some amounts.seed.toNat
    ∧ onX.question = (node.client, .xBalance node.xAddress node.settings.asset)
    ∧ onX.balance? = some (amounts.total.toNat - amounts.seed.toNat - 2 * amounts.fee.toNat)

namespace StakingTask

variable {κ : Type} {node : Participant κ} {amounts : StakeAmounts} {task : StakingTask}
  {start finish : Nat} {log : List (Exchange (Clients κ))} {outcome : Outcome StakingError Unit}

/-- **An orderly conversation of a task**, and an orderly end. -/
structure Orderly (node : Participant κ) (amounts : StakeAmounts) (task : StakingTask)
    (log : List (Exchange (Clients κ))) (outcome : Outcome StakingError Unit) : Prop where
  /-- Amounts that fail their check are refused, and nothing is asked. -/
  refused : ∀ cause, task.check amounts = .error cause →
    log = [] ∧ outcome = Outcome.failed (.amounts cause)
  /-- The stages are gone through up to the first that fails, which is the
  last one that anything is asked for. -/
  course : task.check amounts = .ok () →
    ∃ start finish, Course node.client (task.stages node amounts start finish) log outcome
  /-- A task that ends well has passed all of its stages. -/
  complete : outcome = .ok () → ∃ start finish parts, log = parts.flatten
    ∧ List.Forall₂ (fun stage part => ∃ first rest, part = first :: rest
        ∧ first.question = (node.client, Stage.call stage)
        ∧ stage.Passed node.client first rest) (task.stages node amounts start finish) parts
  /-- Only the node itself is asked. -/
  own : ∀ exchange ∈ log, exchange.question.1 = node.client
  /-- The transactions are handed in in their order, without a gap. -/
  inOrder : (log.filter Exchange.handsIn).map (fun exchange => exchange.call.method)
    <+: task.transactions
  /-- None of them is handed in twice. -/
  once : ((log.filter Exchange.handsIn).map fun exchange => exchange.call.method).Nodup
  /-- Whatever was handed in before a transaction is accepted by then. -/
  settled : ∀ before handed after, log = before ++ handed :: after → handed.handsIn = true →
    Settled node.client before
  /-- Right before a stake is asked for, both balances are as they have to
  be. -/
  backed : ∀ before handed after, log = before ++ handed :: after → handed.call.stakes = true →
    Backed node amounts before

/-- The stages of a task hand in its transactions. -/
theorem method_stages (node : Participant κ) (amounts : StakeAmounts) (start finish : Nat)
    (task : StakingTask) :
    (((task.stages node amounts start finish).map Stage.call).filter Call.handsIn).map Call.method
      = task.transactions := by
  cases task <;> rfl

theorem proper (node : Participant κ) (amounts : StakeAmounts) (start finish : Nat)
    (task : StakingTask) : ∀ stage ∈ task.stages node amounts start finish, stage.Proper := by
  cases task <;> simp [stages, seedStages, Stage.Proper, Call.handsIn]

theorem nodup_transactions (task : StakingTask) : task.transactions.Nodup := by
  cases task <;> simp [transactions]

/-- Two balances are compared when the seed has been moved. -/
theorem backed_of_seeded (h : Course node.client (seedStages node amounts) log (.ok ())) :
    Backed node amounts log := by
  obtain ⟨exported, asked, _, rfl, -, -, himport⟩ := h.of_cons_ok
  obtain ⟨imported, asked', _, rfl, -, -, hholding⟩ := himport.of_cons_ok
  obtain ⟨onP, _, _, rfl, honP, ⟨hseed, rfl⟩, hrest⟩ := hholding.of_cons_ok
  obtain ⟨onX, _, _, rfl, honX, ⟨hleft, rfl⟩, hend⟩ := hrest.of_cons_ok
  -- the outcome is an index of the course and has to be a variable
  generalize hok : (.ok () : Outcome StakingError Unit) = ended at hend
  cases hend with
  | finished =>
    refine ⟨exported :: asked ++ (imported :: asked'), onP, onX, ?_, honP, hseed, honX, hleft⟩
    exact (List.append_assoc _ _ _).symm
  | crashed stages cause => cases hok

/-- A stake is asked for after the seed has been moved, if at all. -/
theorem seeded_of_stakes {passed left : List Stage} {stage : Stage}
    (h : task.stages node amounts start finish = passed ++ stage :: left)
    (hstakes : stage.call.stakes = true) : passed = seedStages node amounts := by
  -- no other stage of a task asks for a stake, so there is one place where it is split
  have hnot : ∀ {others : List Stage}, (∀ other ∈ others, other.call.stakes = false) →
      stage ∉ others := by
    intro others hothers hmem
    exact Bool.false_ne_true ((hothers stage hmem).symm.trans hstakes)
  have hseed : stage ∉ seedStages node amounts :=
    hnot (by simp [seedStages, Stage.call, Call.stakes, Call.ofBalance])
  cases task with
  | validate =>
    refine ((List.append_cons_inj_of_notMem hseed (hnot ?_)).1 h).1.symm
    simp [Stage.call, Call.stakes, Call.ofBalance]
  | delegate validator =>
    refine ((List.append_cons_inj_of_notMem hseed (hnot ?_)).1 h).1.symm
    simp [Stage.call, Call.stakes, Call.ofBalance]
  | returnLeftover =>
    have hmem : stage ∈ returnLeftover.stages node amounts start finish := by simp [h]
    refine absurd hmem (hnot ?_)
    simp [stages, Stage.call, Call.stakes, Call.ofBalance]

/-- **A course of the stages of a task is orderly.** -/
theorem Orderly.of_course (hcheck : task.check amounts = .ok ())
    (h : Course node.client (task.stages node amounts start finish) log outcome) :
    task.Orderly node amounts log outcome := by
  have hinOrder : (log.filter Exchange.handsIn).map (fun exchange => exchange.call.method)
      <+: task.transactions := by
    have hprefix := h.handedIn.map Call.method
    rwa [method_stages, List.map_map] at hprefix
  have hearlier : ∀ {passed stage left}, task.stages node amounts start finish
      = passed ++ stage :: left → ∀ earlier ∈ passed, Stage.Proper earlier := by
    intro passed stage left hstages earlier hmem
    exact proper node amounts start finish task earlier (hstages ▸ List.mem_append_left _ hmem)
  refine ⟨?_, fun _ => ⟨start, finish, h⟩, ?_, h.client_eq, hinOrder, ?_, ?_, ?_⟩
  · intro cause hrefused
    rw [hcheck] at hrefused
    cases hrefused
  · rintro rfl
    exact ⟨start, finish, h.parts_of_ok⟩
  · exact hinOrder.sublist.nodup task.nodup_transactions
  · intro before handed after hsplit hhands
    obtain ⟨passed, stage, left, hstages, -, hpassed, -⟩ := h.split_handsIn hsplit hhands
    exact hpassed.settled (hearlier hstages)
  · intro before handed after hsplit hstakes
    have hhands := Call.handsIn_of_stakes hstakes
    obtain ⟨passed, stage, left, hstages, hquestion, hpassed, -⟩ :=
      h.split_handsIn hsplit hhands
    have hcall : handed.call = stage.call := congrArg Prod.snd hquestion
    rw [seeded_of_stakes hstages (hcall ▸ hstakes)] at hpassed
    exact backed_of_seeded hpassed

/-- Amounts that are refused lead to an orderly end. -/
theorem Orderly.of_refused {cause : AmountsError} (hcheck : task.check amounts = .error cause) :
    task.Orderly node amounts [] (Outcome.failed (.amounts cause)) := by
  refine ⟨?_, ?_, nofun, nofun, List.nil_prefix, List.nodup_nil, ?_, ?_⟩
  · intro other hother
    rw [hcheck] at hother
    obtain rfl := Except.error.inj hother
    exact ⟨rfl, rfl⟩
  · intro hok
    rw [hcheck] at hok
    cases hok
  · intro before handed after hsplit
    simp at hsplit
  · intro before handed after hsplit
    simp at hsplit

/-- A program that begins with a check of the amounts ends there if they fail
it. -/
theorem talk_refused {α : Type} {result : Except AmountsError Unit} {cause : AmountsError}
    (hresult : result = .error cause) {next : Unit → Attempt (Timed (Clients κ)) StakingError α}
    {log : List (Exchange (Clients κ))} {outcome : Outcome StakingError α}
    (h : (Attempt.ofExcept (result.mapError .amounts) >>= next).Talk log outcome) :
    log = [] ∧ outcome = Outcome.failed (.amounts cause) := by
  subst hresult
  exact h

/-- Moving the seed begins with such a check, and nothing follows if that
fails. -/
theorem talk_seed_refused {cause : AmountsError} (hcheck : amounts.validateStake = .error cause)
    {settings : PollSettings} {next : Unit → Attempt (Timed (Clients κ)) StakingError Unit}
    (h : (node.seed amounts settings >>= next).Talk log outcome) :
    log = [] ∧ outcome = Outcome.failed (.amounts cause) := by
  obtain ⟨failure, hseed, rfl⟩ | ⟨_, before, after, rfl, hseed, -⟩ := Attempt.talk_bind.1 h
  · obtain ⟨rfl, hfailure⟩ := talk_refused hcheck hseed
    rw [Except.error.inj hfailure]
    exact ⟨rfl, rfl⟩
  · cases (talk_refused hcheck hseed).2

/-- **Every conversation of a task is orderly.** -/
theorem orderly_of_talk (h : (task.program node amounts).Talk log outcome) :
    task.Orderly node amounts log outcome := by
  cases hcheck : task.check amounts with
  | error cause =>
    have hrefused : log = [] ∧ outcome = Outcome.failed (.amounts cause) := by
      cases task with
      | validate => exact talk_seed_refused hcheck h
      | delegate validator => exact talk_seed_refused hcheck h
      | returnLeftover => exact talk_refused hcheck h
    obtain ⟨rfl, rfl⟩ := hrefused
    exact Orderly.of_refused hcheck
  | ok _ =>
    cases task with
    | validate =>
      obtain ⟨start, finish, hcourse⟩ := node.course_becomeValidator hcheck h
      exact Orderly.of_course hcheck hcourse
    | delegate validator =>
      obtain ⟨start, finish, hcourse⟩ := node.course_becomeDelegator hcheck h
      exact Orderly.of_course hcheck hcourse
    | returnLeftover =>
      exact Orderly.of_course hcheck (node.carries_returnLeftover hcheck 0 0 _ _ h)

/-- **No step is taken early or twice**, whatever the node answers and
whatever it remembers: the record of every run of a task is orderly, and the
run ends as it should after it. -/
theorem run_orderly {σ : Type} (node : Participant κ) (amounts : StakeAmounts)
    (task : StakingTask) (answer : Proc.Handler (Clients κ) σ) (memory : σ)
    (epoch now : Duration) :
    let ended := (task.program node amounts).runOn (Timeline.handler (Proc.recorded answer))
      ⟨epoch, now, (memory, [])⟩
    task.Orderly node amounts ended.2.world.2 ended.1 := by
  obtain ⟨log, hlog, htalk⟩ := Proc.talk_of_run answer (ExceptT.run (task.program node amounts))
    ⟨epoch, now, (memory, [])⟩
  intro ended
  have hrecord : ended.2.world.2 = log := hlog
  rw [hrecord]
  exact orderly_of_talk htalk

end StakingTask

end LedgerNet
