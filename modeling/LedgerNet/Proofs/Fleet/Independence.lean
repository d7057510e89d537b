import LedgerNet.Proofs.Fleet.Waiting
import LedgerNet.Proofs.Program.Apart
import LedgerNet.Proofs.Program.Reporting
import LedgerNet.Proofs.Program.Scheduling

/-!
# The bootstrap nodes are waited for independently

The nodes of the first wave are waited for by as many tasks, and nothing is
known of the order in which the tasks get their turns. It does not matter. If
each node answers from a memory of its own, each is asked what it would be
asked if it were waited for alone, and the wave is over when the longest of
these waits is. What is reported depends on how the waits end alone and on
the order of the chain: it is the first node in that order whose wait does
not end well, whichever of them failed first in time. This is
`awaitWave_apart`.

A node may break down in the middle of an answer. That ends the wait for it
and no other.
-/

namespace LedgerNet

variable {κ τ ε : Type}

namespace Checker

/-! ## One wait -/

/-- A round of questions calls the node that is waited for. -/
theorem onlyCalls_rounds (checker : Checker κ) (interval : Duration) (n : Nat) :
    Proc.OnlyCalls checker.client
      (ExceptT.run (rounds (ε := ε) interval checker n)) := by
  intro log outcome htalk exchange hmem
  have hasks : Asks checker.client log := by
    cases talk_rounds htalk with
    | ready next learns all => exact learns.asks
    | refused next learns refusals => exact learns.asks
    | broken cause asks breakdown => exact asks
  obtain ⟨lane, hquestion⟩ := hasks exchange hmem
  rw [hquestion]

/-- The whole wait does, too. -/
theorem onlyCalls_awaitReady (checker : Checker κ) (budget : PollBudget) :
    Proc.OnlyCalls checker.client (ExceptT.run (checker.awaitReady budget)) := by
  unfold awaitReady await
  rw [ExceptT.run_bind, ExceptT.run_bind]
  refine Proc.OnlyCalls.bind (Proc.OnlyCalls.bind (onlyCalls_rounds checker _ _) ?_) ?_
  · rintro (cause | ⟨ready, next⟩)
    · exact .done _ _
    · cases ready <;> exact .done _ _
  · rintro (cause | ⟨cause | ready, next⟩) <;> exact .done _ _

end Checker

namespace Fleet

variable {fleet : Fleet κ} {checkers : List (Checker κ)}

/-! ## The order of the chain -/

/-- **A wait fails** for a cause that depends on how it ends. -/
inductive Unready (id : String) : Outcome ReadinessError Unit → FleetError → Prop where
  | readiness (cause : ReadinessError) :
    Unready id (Outcome.failed cause) (.readiness id cause)
  | task (cause : Crash) : Unready id (Outcome.crashed cause) (.readinessTask id cause)

/-- A wait that fails has not ended well. -/
theorem Unready.ne_ok {id : String} {ended : Outcome ReadinessError Unit} {cause : FleetError}
    (h : Unready id ended cause) : ended ≠ .ok () := by
  cases h <;> exact nofun

/-- What the wave sees of a wait. -/
theorem waveFailure?_cases (id : String) (ended : Outcome ReadinessError Unit) :
    (ended = .ok () ∧ waveFailure? id ended = none)
      ∨ ∃ cause, Unready id ended cause ∧ waveFailure? id ended = some cause := by
  rcases ended with (cause | cause) | value
  · exact Or.inr ⟨_, .readiness cause, rfl⟩
  · exact Or.inr ⟨_, .task cause, rfl⟩
  · exact Or.inl ⟨rfl, rfl⟩

/-- The outcome of a wave whose waits have come to some outcomes. -/
def waveOutcome (checkers : List (Checker κ)) (outcomes : List (Outcome ReadinessError Unit)) :
    Outcome FleetError Unit :=
  Outcome.reported (firstWaveFailure? checkers outcomes)

/-- A wave reports in the order of the chain. -/
theorem inOrder_waveOutcome (ends : Checker κ → Outcome ReadinessError Unit)
    (checkers : List (Checker κ)) :
    InOrder (fun checker => ends checker = .ok ())
      (fun checker => Unready checker.node (ends checker)) checkers
      (waveOutcome checkers (checkers.map ends)) := by
  have hfirst : firstWaveFailure? checkers (checkers.map ends)
      = checkers.findSome? fun checker => waveFailure? checker.node (ends checker) := by
    have hzip := @List.zip_map' _ _ _ id ends checkers
    rw [List.map_id] at hzip
    unfold firstWaveFailure?
    rw [hzip, List.findSome?_map]
    rfl
  unfold waveOutcome
  rw [hfirst]
  exact InOrder.of_findSome?
    (fun checker => waveFailure?_cases checker.node (ends checker)) checkers

/-! ## The wave -/

/-- The runs of a wave are the interleavings of its waits. -/
theorem runs_awaitWave {σ : Type} {deployment : Deployment κ σ} {s : Chronicle (Clients κ) σ}
    {ended : (Outcome FleetError Unit × Fleet κ) × Chronicle (Clients κ) σ} :
    (awaitWave checkers).Runs deployment.Answers fleet s ended
      ↔ ∃ last, Group.Reaches deployment.answer
          (Group.Moment.start (checkers.map fun checker =>
            ExceptT.run (checker.awaitReady fleet.settings.bootstrapWave)) s.time) last
        ∧ last.Over ∧ ended = ((waveOutcome checkers (last.ended.map Prod.snd), fleet),
          ⟨last.time, s.journals ++ last.ended.map Prod.fst⟩) := by
  show (Action.calling (Concurrent.together (checkers.map fun checker =>
    checker.awaitReady fleet.settings.bootstrapWave)) >>= _).Runs _ fleet s ended ↔ _
  rw [Action.runs_calling_together_bind, List.map_map]
  refine exists_congr fun last => and_congr_right' (and_congr_right' ?_)
  unfold waveOutcome
  cases firstWaveFailure? checkers (last.ended.map Prod.snd) <;> exact Iff.rfl

/-- The scheduler of the library runs the waits, too. -/
theorem runOn_awaitWave {σ : Type} (deployment : Deployment κ σ) (fleet : Fleet κ)
    (checkers : List (Checker κ)) (t : Timeline σ) :
    ((awaitWave checkers).runOn deployment.handler fleet t).1
      = (waveOutcome checkers (Group.run deployment.answer (Group.start (checkers.map fun checker =>
          ExceptT.run (checker.awaitReady fleet.settings.bootstrapWave)) t) t).1, fleet) := by
  have hwaits : (checkers.map fun checker =>
        ExceptT.run (checker.awaitReady fleet.settings.bootstrapWave))
      = (checkers.map fun checker => checker.awaitReady fleet.settings.bootstrapWave).map
          ExceptT.run := by
    rw [List.map_map]
    rfl
  rw [hwaits]
  generalize hgroup : Group.run deployment.answer (Group.start ((checkers.map fun checker =>
    checker.awaitReady fleet.settings.bootstrapWave).map ExceptT.run) t) t = ended
  have hcalled : Action.runOn deployment.handler (Action.calling (Concurrent.together
        (checkers.map fun checker => checker.awaitReady fleet.settings.bootstrapWave)) :
        FleetAction κ FleetError _) fleet t = ((.ok ended.1, fleet), ended.2) := by
    rw [← hgroup]
    rfl
  unfold awaitWave
  rw [Action.runOn_bind_ok Action.runOn_state, Action.runOn_bind_ok hcalled]
  unfold waveOutcome
  cases firstWaveFailure? checkers ended.1 <;> rfl

end Fleet

/-! ## Nodes apart -/

variable [DecidableEq κ]

/-- **How the wait for one node ends**, with nothing else going on. -/
def Checker.alone (node : κ → (call : Call) → τ → Outcome ApiError call.Result × τ)
    (budget : PollBudget) (t : Timeline (κ → τ)) (checker : Checker κ) :
    Ending κ (Outcome ReadinessError Unit) :=
  Proc.endingFrom (answerApart node) (ExceptT.run (checker.awaitReady budget)) t []

namespace Fleet

variable {node : κ → (call : Call) → τ → Outcome ApiError call.Result × τ} {budget : PollBudget}
  {checkers : List (Checker κ)} {t : Timeline (κ → τ)}
  {last : Group.Moment (Clients κ) (Outcome ReadinessError Unit) (κ → τ)}

/-- The waits of a wave, each with the node that it calls. -/
def waits (budget : PollBudget) (checkers : List (Checker κ)) :
    List (κ × Proc (Timed (Clients κ)) (Outcome ReadinessError Unit)) :=
  checkers.map fun checker => (checker.client, ExceptT.run (checker.awaitReady budget))

/-- The waits for nodes apart have nothing to do with each other. -/
theorem apart_of_reaches (hclients : (checkers.map Checker.client).Nodup)
    (hreaches : Group.Reaches (answerApart node) (Group.Moment.start
      (checkers.map fun checker => ExceptT.run (checker.awaitReady budget)) t) last) :
    last.Apart node t (waits budget checkers) := by
  have hnodup : ((waits budget checkers).map Prod.fst).Nodup := by
    unfold waits
    rwa [List.map_map]
  have honly : ∀ task ∈ waits budget checkers, task.2.OnlyCalls task.1 := by
    intro task hmem
    obtain ⟨checker, -, rfl⟩ := List.mem_map.1 hmem
    exact checker.onlyCalls_awaitReady budget
  have hstart := Group.apart_start node honly t
  unfold waits at hstart
  rw [List.map_map] at hstart
  exact hreaches.apart hnodup hstart

/-- They end as they do alone. -/
theorem ended_eq_alone (h : last.Apart node t (waits budget checkers))
    (hdone : ∀ member ∈ last.members, ∃ value, member.thread.rest = .done value) :
    last.ended = checkers.map fun checker =>
      ((checker.alone node budget t).journal, (checker.alone node budget t).value) := by
  rw [h.ended_eq hdone]
  unfold waits
  rw [List.map_map]
  rfl

/-- **The wave does not depend on the order in which things happen.** If each
node answers from a memory of its own, then in every interleaving of the waits
each node is asked what it is asked in a wait for it alone, the wave is over
when the longest of these waits is, and it ends well if and only if all of
them do. Otherwise it fails as the first of them does in the order of the
chain. The scheduler of the library reports the same. -/
theorem awaitWave_apart (node : κ → (call : Call) → τ → Outcome ApiError call.Result × τ)
    (outside : Deployment κ (κ → τ)) (fleet : Fleet κ)
    (hclients : (checkers.map Checker.client).Nodup) (t : Timeline (κ → τ)) :
    let deployment := { outside with answer := answerApart node }
    let alone := Checker.alone node fleet.settings.bootstrapWave t
    (∃ ended, (awaitWave checkers).Runs deployment.Answers fleet (.blank t) ended)
      ∧ ∀ outcome left after,
        (awaitWave checkers).Runs deployment.Answers fleet (.blank t) ((outcome, left), after) →
        after.journals = checkers.map (fun checker => (alone checker).journal)
        ∧ IsGreatest {n | n = t.now.nanos ∨ ∃ checker ∈ checkers, n = (alone checker).now.nanos}
            after.time.now.nanos
        ∧ left = fleet
        ∧ (outcome = .ok () ↔ ∀ checker ∈ checkers, (alone checker).value = .ok ())
        ∧ InOrder (fun checker => (alone checker).value = .ok ())
            (fun checker => Unready checker.node (alone checker).value) checkers outcome
        ∧ ((awaitWave checkers).runOn deployment.handler fleet t).1 = (outcome, left) := by
  intro deployment alone
  constructor
  · obtain ⟨last, hreaches, hover⟩ := Group.Moment.exists_over (answerApart node)
      (Group.Moment.start (checkers.map fun checker =>
        ExceptT.run (checker.awaitReady fleet.settings.bootstrapWave)) t)
    exact ⟨_, runs_awaitWave.2 ⟨last, hreaches, hover, rfl⟩⟩
  intro outcome left after hrun
  obtain ⟨last, hreaches, hover, hended⟩ := runs_awaitWave.1 hrun
  cases hended
  have hapart : last.Apart node t (waits fleet.settings.bootstrapWave checkers) :=
    apart_of_reaches hclients hreaches
  have hends := ended_eq_alone hapart hover.done
  have hvalues : last.ended.map Prod.snd = checkers.map fun checker => (alone checker).value := by
    rw [hends, List.map_map]
    rfl
  have hreport := inOrder_waveOutcome (fun checker => (alone checker).value) checkers
  rw [← hvalues] at hreport
  refine ⟨?_, ?_, rfl, hreport.eq_ok_iff fun checker cause h => h.ne_ok, hreport, ?_⟩
  · show [] ++ last.ended.map Prod.fst = _
    rw [List.nil_append, hends, List.map_map]
    rfl
  · have hnow := hapart.isGreatest_now hover
    unfold waits at hnow
    simp only [List.mem_map, exists_exists_and_eq_and] at hnow
    exact hnow
  · obtain ⟨other, hother, hover', hsame⟩ := Group.reaches_run_start (answerApart node)
      (checkers.map fun checker =>
        ExceptT.run (checker.awaitReady fleet.settings.bootstrapWave)) t
    rw [ended_eq_alone (apart_of_reaches hclients hother) hover'.done, ← hends] at hsame
    rw [runOn_awaitWave, ← hsame]

/-- The first node of the chain is given up late, and the second one breaks
down at once. It is the first one that is reported. -/
theorem awaitWave_apart_late :
    let node (client : Nat) (call : Call) (memory : Unit) : Outcome ApiError call.Result × Unit :=
      (match client, call with
        | 0, _ => Outcome.failed (.unsupported "call")
        | 1, _ => Outcome.crashed (.breakdown "out of memory")
        | _, .isBootstrapped _ => .ok true
        | _, _ => Outcome.failed (.unsupported "call"), memory)
    let deployment : Deployment Nat (Nat → Unit) :=
      ⟨answerApart node, fun _ world => (.ok (.v4 ⟨0⟩), world), fun _ _ world => (.ok (), world),
        fun _ world => (.ok 0, world)⟩
    let chain : List (Checker Nat) := [.ofNode "b1" 0, .ofNode "b2" 1, .ofNode "b3" 2]
    let fleet : Fleet Nat := Fleet.empty ⟨⟨⟨1⟩, 3⟩, ⟨.ofMillis 100, 3⟩, ⟨1⟩⟩
    let t : Timeline (Nat → Unit) := Timeline.start ⟨0⟩ fun _ => ()
    (chain.map Checker.client).Nodup
      ∧ (chain.map fun checker => (checker.alone node fleet.settings.bootstrapWave t).now)
        = [.ofMillis 200, .zero, .zero]
      ∧ ∃ after, (awaitWave chain).Runs deployment.Answers fleet (.blank t)
        ((Outcome.failed (.readiness "b1"
          (.exhausted "b1" [.p, .c, .x] (some (.unsupported "call")) 3)), fleet), after) := by
  intro node deployment chain fleet t
  have hclients : (chain.map Checker.client).Nodup := by decide
  obtain ⟨⟨⟨⟨outcome, left⟩, after⟩, hrun⟩, hall⟩ :=
    awaitWave_apart node deployment fleet hclients t
  obtain ⟨-, -, rfl, -, horder, -⟩ := hall outcome left after hrun
  refine ⟨hclients, by decide, after, ?_⟩
  have hfirst : ((Checker.ofNode "b1" 0).alone node fleet.settings.bootstrapWave t).value
      = Outcome.failed (.exhausted "b1" [.p, .c, .x] (some (.unsupported "call")) 3) := by
    decide
  obtain ⟨cause, hunready, rfl⟩ := horder.of_head (by rw [hfirst]; exact nofun)
  rw [hfirst] at hunready
  cases hunready
  exact hrun

end Fleet

end LedgerNet
