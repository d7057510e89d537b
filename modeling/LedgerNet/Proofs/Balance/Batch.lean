import LedgerNet.Balance
import LedgerNet.Proofs.Program.Onlooking
import LedgerNet.Proofs.Program.Reporting

/-!
# A batch of balances is reported in its own order

The checks of a batch are as many tasks, which share the source of the
balances and finish in any order. What a batch reports is the first failure
in the order of the list all the same. It names the address of the pair that
failed and, if a balance was not what it had to be, what was expected of that
pair and not of another one with the same address.

The source may be any program. It may sleep, it may ask one thing or many,
and its answers may differ between two batches. What is asked of it is that
within one batch its reply for an address is always the same (`Steady`). A
batch that is run asks it once for each pair, whatever comes of the others
(`checkAll_reports`).
-/

namespace LedgerNet

namespace Balance

variable {Q : Interface.{0}} {σ : Type} {source : BalanceSource Q} {lane : Lane}
  {expectations : List (String × Nat)}

/-! ## One check -/

/-- **What a check comes to**, given the reply of the source. -/
def verdict (lane : Lane) (pair : String × Nat) : Outcome ApiError Nat → Outcome BalanceError Unit
  | .ok actual =>
    if actual = pair.2 then .ok () else Outcome.failed (.mismatch lane pair.1 pair.2 actual)
  | .error (.error cause) => Outcome.failed (.query lane pair.1 cause)
  | .error (.crash cause) => Outcome.crashed cause

/-- A check asks the source and looks at the reply. -/
theorem check_eq (pair : String × Nat) :
    check source lane pair.1 pair.2
      = ExceptT.mk (ExceptT.run (source pair.1) >>= fun reply =>
        pure (verdict lane pair reply)) := by
  unfold check Attempt.wrap
  apply ExceptT.ext
  rw [ExceptT.run_bind, ExceptT.run_mk, ExceptT.run_mk, bind_assoc]
  refine congrArg (ExceptT.run (source pair.1) >>= ·) (funext fun reply => ?_)
  rcases reply with (cause | cause) | actual
  · rfl
  · rfl
  · show ExceptT.run (if actual = pair.2 then return () else _) = pure (verdict _ _ (.ok actual))
    unfold verdict
    dsimp only
    split <;> rfl

/-- A check is one conversation with the source. -/
theorem journals_check {pair : String × Nat} {journal : List (Proc.Entry (Timed Q))}
    {outcome : Outcome BalanceError Unit} :
    (check source lane pair.1 pair.2).Journals journal outcome
      ↔ ∃ reply, (source pair.1).Journals journal reply ∧ outcome = verdict lane pair reply := by
  rw [check_eq]
  exact Attempt.journals_mk_bind

/-! ## The order of the list -/

/-- **A pair fails** for a cause that depends on the reply for its address. -/
inductive Refuted (lane : Lane) (pair : String × Nat) :
    Outcome ApiError Nat → BalanceError → Prop where
  | mismatch (actual : Nat) (differs : actual ≠ pair.2) :
    Refuted lane pair (.ok actual) (.mismatch lane pair.1 pair.2 actual)
  | query (cause : ApiError) : Refuted lane pair (Outcome.failed cause) (.query lane pair.1 cause)
  | task (cause : Crash) : Refuted lane pair (Outcome.crashed cause) (.task pair.1 cause)

/-- A pair that fails is not verified. -/
theorem Refuted.ne_ok {pair : String × Nat} {reply : Outcome ApiError Nat} {cause : BalanceError}
    (h : Refuted lane pair reply cause) : reply ≠ .ok pair.2 := by
  cases h with
  | mismatch actual differs => exact fun heq => differs (Except.ok.inj heq)
  | query cause => exact nofun
  | task cause => exact nofun

/-- What the batch sees of a check. -/
theorem failure?_verdict (lane : Lane) (pair : String × Nat) (reply : Outcome ApiError Nat) :
    (reply = .ok pair.2 ∧ failure? pair.1 (verdict lane pair reply) = none)
      ∨ ∃ cause, Refuted lane pair reply cause
        ∧ failure? pair.1 (verdict lane pair reply) = some cause := by
  rcases reply with (cause | cause) | actual
  · exact Or.inr ⟨_, .query cause, rfl⟩
  · exact Or.inr ⟨_, .task cause, rfl⟩
  · unfold verdict
    dsimp only
    split
    · rename_i heq
      exact Or.inl ⟨congrArg Except.ok heq, rfl⟩
    · rename_i hne
      exact Or.inr ⟨_, .mismatch actual hne, rfl⟩

/-- What a batch reports whose checks have come to some outcomes. -/
def report (addresses : List String) (outcomes : List (Outcome BalanceError Unit)) :
    Outcome BalanceError Unit :=
  Outcome.reported (firstFailure? addresses outcomes)

/-- A batch reports in the order of the list. -/
theorem inOrder_report (lane : Lane) (reply : String → Outcome ApiError Nat)
    (expectations : List (String × Nat)) :
    InOrder (fun pair => reply pair.1 = .ok pair.2)
      (fun pair => Refuted lane pair (reply pair.1)) expectations
      (report (expectations.map Prod.fst)
        (expectations.map fun pair => verdict lane pair (reply pair.1))) := by
  have hfirst : firstFailure? (expectations.map Prod.fst)
        (expectations.map fun pair => verdict lane pair (reply pair.1))
      = expectations.findSome? fun pair =>
          failure? pair.1 (verdict lane pair (reply pair.1)) := by
    unfold firstFailure?
    rw [List.zip_map', List.findSome?_map]
    rfl
  unfold report
  rw [hfirst]
  exact InOrder.of_findSome? (fun pair => failure?_verdict lane pair (reply pair.1)) expectations

/-! ## The batch -/

/-- The runs of a batch are the interleavings of its checks. -/
theorem runs_checkAll {answer : Proc.Handler Q σ} {s : Chronicle Q σ}
    {ended : Outcome BalanceError Unit × Chronicle Q σ} :
    (checkAll source lane expectations).Runs (Concurrent.Answers answer) s ended
      ↔ ∃ last, Group.Reaches answer (Group.Moment.start (expectations.map fun pair =>
            ExceptT.run (check source lane pair.1 pair.2)) s.time) last
        ∧ last.Over ∧ ended = (report (expectations.map Prod.fst) (last.ended.map Prod.snd),
          ⟨last.time, s.journals ++ last.ended.map Prod.fst⟩) := by
  unfold checkAll
  rw [Concurrent.runs_together_bind, List.map_map]
  refine exists_congr fun last => and_congr_right' (and_congr_right' ?_)
  unfold report
  cases firstFailure? (expectations.map Prod.fst) (last.ended.map Prod.snd) <;> exact Iff.rfl

/-- The scheduler of the library runs the checks, too. -/
theorem runOn_checkAll (answer : Proc.Handler Q σ) (source : BalanceSource Q) (lane : Lane)
    (expectations : List (String × Nat)) (t : Timeline σ) :
    ((checkAll source lane expectations).runOn (Concurrent.handler answer) t).1
      = report (expectations.map Prod.fst) (Group.run answer (Group.start
          (expectations.map fun pair => ExceptT.run (check source lane pair.1 pair.2)) t) t).1 := by
  have hchecks : (expectations.map fun pair => ExceptT.run (check source lane pair.1 pair.2))
      = (expectations.map fun pair => check source lane pair.1 pair.2).map ExceptT.run := by
    rw [List.map_map]
    rfl
  rw [hchecks]
  unfold checkAll report
  rw [Attempt.runOn_bind_ok (Concurrent.runOn_together answer _ t)]
  cases firstFailure? (expectations.map Prod.fst) _ <;> rfl

/-- The scheduler of the library is one of many. -/
theorem runs_runOn_checkAll (answer : Proc.Handler Q σ) (source : BalanceSource Q) (lane : Lane)
    (expectations : List (String × Nat)) (t : Timeline σ) :
    ∃ after, (checkAll source lane expectations).Runs (Concurrent.Answers answer) (.blank t)
      (((checkAll source lane expectations).runOn (Concurrent.handler answer) t).1, after) := by
  obtain ⟨last, hreaches, hover, hvalues⟩ := Group.reaches_run_start answer
    (expectations.map fun pair => ExceptT.run (check source lane pair.1 pair.2)) t
  rw [runOn_checkAll, ← hvalues]
  exact ⟨_, runs_checkAll.2 ⟨last, hreaches, hover, rfl⟩⟩

/-- A check of a balance that is only looked at only looks. -/
theorem observes_check {world : σ} {answer : Proc.Handler Q σ} {pair : String × Nat}
    {reply : Outcome ApiError Nat} (h : (source pair.1).Observes answer world reply) :
    (check source lane pair.1 pair.2).Observes answer world (verdict lane pair reply) := by
  rw [check_eq]
  exact Proc.Observes.bind h (.done _)

/-- **A batch of balances that are only looked at** takes no time and changes
nothing, and reports in the order of the list. -/
theorem runs_checkAll_of_observes {answer : Proc.Handler Q σ} {s : Chronicle Q σ}
    {ended : Outcome BalanceError Unit × Chronicle Q σ} (reply : String → Outcome ApiError Nat)
    (h : ∀ pair ∈ expectations, (source pair.1).Observes answer s.time.world (reply pair.1))
    (hrun : (checkAll source lane expectations).Runs (Concurrent.Answers answer) s ended) :
    ended.2.time = s.time
      ∧ InOrder (fun pair => reply pair.1 = .ok pair.2)
        (fun pair => Refuted lane pair (reply pair.1)) expectations ended.1 := by
  obtain ⟨last, hreaches, hover, rfl⟩ := runs_checkAll.1 hrun
  have hchecks : List.Forall₂ (Proc.Observes answer s.time.world)
      (expectations.map fun pair => ExceptT.run (check source lane pair.1 pair.2))
      (expectations.map fun pair => verdict lane pair (reply pair.1)) := by
    rw [List.forall₂_map_left_iff, List.forall₂_map_right_iff]
    exact List.forall₂_same.2 fun pair hmem => observes_check (h pair hmem)
  obtain ⟨htime, hvalues⟩ := hreaches.observed hover hchecks
  refine ⟨htime, ?_⟩
  show InOrder _ _ _ (report _ (last.ended.map Prod.snd))
  rw [hvalues]
  exact inOrder_report lane reply expectations

/-- **The reply for an address does not change** in a batch: every
conversation about it ends with the same. -/
def Steady (source : BalanceSource Q) (expectations : List (String × Nat))
    (journals : List (List (Proc.Entry (Timed Q)))) (reply : String → Outcome ApiError Nat) :
    Prop :=
  ∀ row ∈ expectations.zip journals, ∀ ended,
    (source row.1.1).Journals row.2 ended → ended = reply row.1.1

/-- **A batch of balances.** However its checks are interleaved, and the
scheduler of the library interleaves them in one of these ways, the batch asks
the source once for each pair. It is verified if and only if every reply is
the balance that the pair expects, and otherwise fails as the first pair of
the list does that fails. -/
theorem checkAll_reports (answer : Proc.Handler Q σ) (source : BalanceSource Q) (lane : Lane)
    (expectations : List (String × Nat)) (t : Timeline σ) :
    (∃ after, (checkAll source lane expectations).Runs (Concurrent.Answers answer) (.blank t)
        (((checkAll source lane expectations).runOn (Concurrent.handler answer) t).1, after))
      ∧ ∀ reply outcome after,
        (checkAll source lane expectations).Runs (Concurrent.Answers answer) (.blank t)
          (outcome, after) →
        Steady source expectations after.journals reply →
        List.Forall₂ (fun pair journal => (source pair.1).Journals journal (reply pair.1))
            expectations after.journals
          ∧ (outcome = .ok () ↔ ∀ pair ∈ expectations, reply pair.1 = .ok pair.2)
          ∧ InOrder (fun pair => reply pair.1 = .ok pair.2)
            (fun pair => Refuted lane pair (reply pair.1)) expectations outcome := by
  constructor
  · exact runs_runOn_checkAll answer source lane expectations t
  intro reply outcome after hrun hsteady
  obtain ⟨last, hreaches, hover, hended⟩ := runs_checkAll.1 hrun
  cases hended
  replace hsteady : Steady source expectations (last.ended.map Prod.fst) reply := hsteady
  have htasks := hreaches.journals hover
  rw [List.forall₂_map_left_iff] at htasks
  -- each check has had a conversation with the source, which is steady
  have hchecks : List.Forall₂ (fun pair ended => (source pair.1).Journals ended.1 (reply pair.1)
      ∧ verdict lane pair (reply pair.1) = ended.2) expectations last.ended := by
    refine List.forall₂_iff_zip.2 ⟨htasks.length_eq, fun {pair ended} hmem => ?_⟩
    obtain ⟨ending, hsaid, hverdict⟩ := journals_check.1 (List.forall₂_zip htasks hmem)
    have hrow : (pair, ended.1) ∈ expectations.zip (last.ended.map Prod.fst) := by
      rw [List.zip_map_right]
      exact List.mem_map_of_mem hmem
    obtain rfl := hsteady _ hrow ending hsaid
    exact ⟨hsaid, hverdict.symm⟩
  have hvalues : (expectations.map fun pair => verdict lane pair (reply pair.1))
      = last.ended.map Prod.snd := by
    rw [← List.forall₂_eq_eq_eq, List.forall₂_map_left_iff, List.forall₂_map_right_iff]
    exact hchecks.imp fun pair ended h => h.2
  have horder := inOrder_report lane reply expectations
  rw [hvalues] at horder
  refine ⟨?_, horder.eq_ok_iff fun pair cause h => h.ne_ok, horder⟩
  show List.Forall₂ _ expectations (last.ended.map Prod.fst)
  rw [List.forall₂_map_right_iff]
  exact hchecks.imp fun pair ended h => h.1

/-- The first pair of a batch expects too much of its address and learns so
late, when the check of the second one has crashed and that of the third one,
which is about the same address as the first, has gone well. It is the first
one that is reported. -/
theorem checkAll_reports_late :
    let touch : Interface := ⟨String, fun _ => Unit⟩
    let answer : Proc.Handler touch Nat := fun _ touched => ((), touched + 1)
    let reply (address : String) : Outcome ApiError Nat :=
      if address = "alice" then .ok 5 else Outcome.crashed (.breakdown "out of memory")
    let source : BalanceSource touch := fun address => do
      sleep (if address = "alice" then .ofMillis 200 else .zero)
      Attempt.ofProc (Proc.ask (TimedOp.query (Q := touch) address) Proc.done)
      Attempt.ofOutcome (reply address)
    let expectations := [("alice", 6), ("bob", 1), ("alice", 5)]
    ∃ after, (checkAll source .x expectations).Runs (Concurrent.Answers answer)
        (.blank (Timeline.start .zero 0)) (Outcome.failed (.mismatch .x "alice" 6 5), after)
      ∧ Steady source expectations after.journals reply
      ∧ List.Forall₂ (fun pair journal => (source pair.1).Journals journal (reply pair.1))
        expectations after.journals := by
  intro touch answer reply source expectations
  obtain ⟨⟨after, hrun⟩, hall⟩ :=
    checkAll_reports answer source .x expectations (Timeline.start .zero 0)
  have hsteady : Steady source expectations after.journals reply := by
    rintro row - ended ⟨_, _, -, _, _, -, -, hended⟩
    exact hended
  obtain ⟨hsaid, -, horder⟩ := hall reply _ after hrun hsteady
  obtain ⟨cause, hrefuted, houtcome⟩ := horder.of_head (by decide)
  rw [houtcome] at hrun
  cases hrefuted with
  | mismatch actual differs => exact ⟨after, hrun, hsteady, hsaid⟩

end Balance

end LedgerNet
