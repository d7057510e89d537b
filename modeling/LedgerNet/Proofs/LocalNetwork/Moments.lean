import LedgerNet.Proofs.Ledger.Calls
import LedgerNet.Proofs.Program.Looking
import LedgerNet.Proofs.Program.Pausing
import LedgerNet.Rehearsal.LocalNetwork

/-!
# Moments of a network in memory

A staking run calls nodes and lets time pass. On a network in memory this
changes the ledger that the nodes share and the clock, and nothing else; so
a run is at a moment, which is a point in time and a ledger, and each step
takes it from one moment to another one.

`Drives` is what is said about a step: from a point in time and from
holdings, whichever ledger comes to them, it succeeds with a result and
leads to a point in time and to holdings as described. The rules put steps
together, and each kind of step has its own.
-/

namespace LedgerNet

/-- What an address holds on a lane. -/
def Holdings.on (h : Holdings) : Lane → String → Nat
  | .p => h.p
  | .c => h.c
  | .x => h.x

namespace LocalNetwork

variable {ε δ α β : Type} (epoch : Duration) (base : LocalNetwork)

/-- **A network at a moment**: as it was, but for the time and the ledger. -/
def moment (now : Duration) (ledger : Ledger) : Timeline LocalNetwork :=
  ⟨epoch, now, { base with ledger }⟩

/-- **A program succeeds from a point in time and from holdings**, and leads
to others, as described. -/
def Drives (p : Attempt (Timed (Clients LocalClient)) ε α) (now : Duration) (h : Holdings)
    (post : α → Duration → Holdings → Prop) : Prop :=
  ∀ ledger : Ledger, ledger.holdings = h → ∃ value later left,
    p.runOn (Timeline.handler answer) (moment epoch base now ledger)
        = (.ok value, moment epoch base later left)
      ∧ post value later left.holdings

variable {epoch base} {p : Attempt (Timed (Clients LocalClient)) ε α}
  {next : α → Attempt (Timed (Clients LocalClient)) ε β} {now : Duration} {h : Holdings}
  {post : α → Duration → Holdings → Prop} {after : β → Duration → Holdings → Prop}

namespace Drives

theorem of_pure {value : α} (hpost : post value now h) :
    Drives epoch base (pure value : Attempt (Timed (Clients LocalClient)) ε α) now h post := by
  rintro ledger rfl
  exact ⟨value, now, ledger, rfl, hpost⟩

/-- One step after another. -/
theorem bind (hp : Drives epoch base p now h post)
    (hnext : ∀ value later left, post value later left →
      Drives epoch base (next value) later left after) :
    Drives epoch base (p >>= next) now h after := by
  intro ledger hledger
  obtain ⟨value, later, left, hrun, hpost⟩ := hp ledger hledger
  obtain ⟨result, final, rest, hrest, hafter⟩ := hnext value later left.holdings hpost left rfl
  exact ⟨result, final, rest, (Attempt.runOn_bind_ok hrun).trans hrest, hafter⟩

theorem mono {weaker : α → Duration → Holdings → Prop} (hp : Drives epoch base p now h post)
    (hpost : ∀ value later left, post value later left → weaker value later left) :
    Drives epoch base p now h weaker := by
  intro ledger hledger
  obtain ⟨value, later, left, hrun, h⟩ := hp ledger hledger
  exact ⟨value, later, left, hrun, hpost value later left.holdings h⟩

theorem wrap {f : ε → δ} (hp : Drives epoch base p now h post) :
    Drives epoch base (p.wrap f) now h post := by
  intro ledger hledger
  obtain ⟨value, later, left, hrun, hpost⟩ := hp ledger hledger
  refine ⟨value, later, left, ?_, hpost⟩
  rw [Attempt.runOn_wrap, hrun]
  rfl

/-- A computation that has a value, and what comes after it. -/
theorem ofChecked_bind {checked : Checked α} {value : α} (hchecked : checked = .ok value)
    (hnext : Drives epoch base (next value) now h after) :
    Drives epoch base (Attempt.ofChecked checked >>= next) now h after := by
  subst hchecked
  exact hnext

/-- A check that is passed, and what comes after it. -/
theorem ofExcept_bind {result : Except ε α} {value : α} (hresult : result = .ok value)
    (hnext : Drives epoch base (next value) now h after) :
    Drives epoch base (Attempt.ofExcept result >>= next) now h after := by
  subst hresult
  exact hnext

theorem elapsed_bind {next : Duration → Attempt (Timed (Clients LocalClient)) ε β}
    (hnext : Drives epoch base (next now) now h after) :
    Drives epoch base (elapsed >>= next) now h after :=
  hnext

/-- A pause ends at the first whole millisecond after it. -/
theorem sleep (d : Duration) :
    Drives epoch base (sleep d : Attempt (Timed (Clients LocalClient)) ε Unit) now h
      fun _ later left => later = Timeline.tick ⟨now.nanos + d.nanos⟩ ∧ left = h := by
  rintro ledger rfl
  exact ⟨(), _, ledger, rfl, Timeline.max_tick now d, rfl⟩

theorem timeOfDay_bind {next : Duration → Attempt (Timed (Clients LocalClient)) ε β}
    (hnext : Drives epoch base (next ⟨epoch.nanos + now.nanos⟩) now h after) :
    Drives epoch base (timeOfDay >>= next) now h after :=
  hnext

/-- **One step for each item of a list**, kept by an invariant of the items
that are done. -/
theorem forM {ι : Type} {step : ι → Attempt (Timed (Clients LocalClient)) ε PUnit}
    (inv : List ι → Duration → Holdings → Prop) (items : List ι)
    (hstep : ∀ done item rest, done ++ item :: rest = items → ∀ now h, inv done now h →
      Drives epoch base (step item) now h fun _ later left => inv (done ++ [item]) later left)
    (hinv : inv [] now h) :
    Drives epoch base (items.forM step) now h fun _ later left => inv items later left := by
  suffices hrest : ∀ rest done, done ++ rest = items → ∀ now h, inv done now h →
      Drives epoch base (rest.forM step) now h fun _ later left => inv items later left from
    hrest items [] rfl now h hinv
  intro rest
  induction rest with
  | nil =>
    intro done hdone now h hinv
    obtain rfl := (List.append_nil done).symm.trans hdone
    exact of_pure hinv
  | cons item rest ih =>
    intro done hdone now h hinv
    show Drives epoch base (step item >>= fun _ => rest.forM step) now h _
    refine bind (hstep done item rest hdone now h hinv) fun _ later left hleft => ?_
    exact ih (done ++ [item]) (by rw [List.append_assoc]; exact hdone) later left hleft

end Drives

/-! ## Programs that change something -/

/-- **An action succeeds from a state**, a point in time and holdings, and
leads to others, as described. -/
def DrivesFrom {σ : Type} (epoch : Duration) (base : LocalNetwork)
    (p : Action σ (Timed (Clients LocalClient)) ε α) (s : σ) (now : Duration) (h : Holdings)
    (post : α → σ → Duration → Holdings → Prop) : Prop :=
  ∀ ledger : Ledger, ledger.holdings = h → ∃ value s' later left,
    p.runOn (Timeline.handler answer) s (moment epoch base now ledger)
        = ((.ok value, s'), moment epoch base later left)
      ∧ post value s' later left.holdings

namespace DrivesFrom

variable {σ : Type} {p : Action σ (Timed (Clients LocalClient)) ε α}
  {next : α → Action σ (Timed (Clients LocalClient)) ε β} {s : σ}
  {post : α → σ → Duration → Holdings → Prop} {after : β → σ → Duration → Holdings → Prop}

theorem of_pure {value : α} (hpost : post value s now h) :
    DrivesFrom epoch base (pure value : Action σ (Timed (Clients LocalClient)) ε α) s now h
      post := by
  rintro ledger rfl
  exact ⟨value, s, now, ledger, rfl, hpost⟩

theorem bind (hp : DrivesFrom epoch base p s now h post)
    (hnext : ∀ value s' later left, post value s' later left →
      DrivesFrom epoch base (next value) s' later left after) :
    DrivesFrom epoch base (p >>= next) s now h after := by
  intro ledger hledger
  obtain ⟨value, s', later, left, hrun, hpost⟩ := hp ledger hledger
  obtain ⟨result, s'', final, rest, hrest, hafter⟩ :=
    hnext value s' later left.holdings hpost left rfl
  exact ⟨result, s'', final, rest, (Action.runOn_bind_ok hrun).trans hrest, hafter⟩

theorem mono {weaker : α → σ → Duration → Holdings → Prop}
    (hp : DrivesFrom epoch base p s now h post)
    (hpost : ∀ value s' later left, post value s' later left → weaker value s' later left) :
    DrivesFrom epoch base p s now h weaker := by
  intro ledger hledger
  obtain ⟨value, s', later, left, hrun, h⟩ := hp ledger hledger
  exact ⟨value, s', later, left, hrun, hpost value s' later left.holdings h⟩

/-- A step that does not touch the state. -/
theorem lift {p : Attempt (Timed (Clients LocalClient)) ε α}
    {post : α → Duration → Holdings → Prop} (hp : Drives epoch base p now h post) :
    DrivesFrom epoch base (Action.lift p) s now h
      fun value s' later left => s' = s ∧ post value later left := by
  intro ledger hledger
  obtain ⟨value, later, left, hrun, hpost⟩ := hp ledger hledger
  exact ⟨value, s, later, left, Action.runOn_lift hrun, rfl, hpost⟩

/-- A result that is there, and what comes after it. -/
theorem ofExcept_bind {result : Except ε α} {value : α} (hresult : result = .ok value)
    (hnext : DrivesFrom epoch base (next value) s now h after) :
    DrivesFrom epoch base (Action.ofExcept result >>= next) s now h after := by
  subst hresult
  exact hnext

theorem state_bind {next : σ → Action σ (Timed (Clients LocalClient)) ε β}
    (hnext : DrivesFrom epoch base (next s) s now h after) :
    DrivesFrom epoch base (Action.state >>= next) s now h after :=
  hnext

theorem change_bind {f : σ → σ} {next : Unit → Action σ (Timed (Clients LocalClient)) ε β}
    (hnext : DrivesFrom epoch base (next ()) (f s) now h after) :
    DrivesFrom epoch base (Action.change f >>= next) s now h after :=
  hnext

/-- An action on a state of its own answers with it. -/
theorem alone (hp : DrivesFrom epoch base p s now h post) :
    Drives epoch base (p.alone s) now h fun ended later left =>
      post ended.1 ended.2 later left := by
  intro ledger hledger
  obtain ⟨value, s', later, left, hrun, hpost⟩ := hp ledger hledger
  exact ⟨(value, s'), later, left, Action.runOn_alone hrun, hpost⟩

end DrivesFrom

/-! ## Calls -/

variable {client : LocalClient} {call : Call} {result : call.Result → Holdings → Prop}

/-- **A call takes no time**, and what it does is up to the node. -/
theorem drives_callNode
    (hanswer : ∀ ledger : Ledger, ledger.holdings = h → ∃ value left,
      answer (client, call) { base with ledger } = (.ok value, { base with ledger := left })
        ∧ result value left.holdings) :
    Drives epoch base (callNode client call) now h fun value later left =>
      later = now ∧ result value left := by
  intro ledger hledger
  obtain ⟨value, left, hrun, hresult⟩ := hanswer ledger hledger
  refine ⟨value, now, left, ?_, rfl, hresult⟩
  rw [Timeline.handler_eq_handlerOn, Timeline.runOn_callNode]
  unfold moment
  rw [hrun]

/-- **A call that is about the ledger** does to it what the ledger does. -/
theorem runOn_call (client : LocalClient) (call : Call) {action : LedgerAction call.Result}
    {ledger left : Ledger} {outcome : Outcome ApiError call.Result}
    (hanswer : ∀ network, answer (client, call) network = onLedger action network)
    (hrun : action.run.run ledger = (outcome, left)) :
    (callNode client call).runOn (Timeline.handler answer) (moment epoch base now ledger)
      = (outcome, moment epoch base now left) := by
  rw [Timeline.handler_eq_handlerOn, Timeline.runOn_callNode]
  unfold moment
  rw [hanswer, onLedger, hrun]

/-- **A call that is about the ledger** and succeeds. -/
theorem drives_step {action : LedgerAction call.Result}
    (hanswer : ∀ network, answer (client, call) network = onLedger action network)
    (haction : Ledger.Turns action h result) :
    Drives epoch base (stepCall client call) now h fun value later left =>
      later = now ∧ result value left := by
  intro ledger hledger
  obtain ⟨value, left, hrun, hresult⟩ := haction ledger hledger
  refine ⟨value, now, left, ?_, rfl, hresult⟩
  rw [stepCall, Attempt.runOn_wrap, runOn_call client call hanswer hrun]
  rfl

/-! ## Waiting and comparing -/

variable {lane : Lane} {tx : TxId} {settings : PollSettings}

/-- A transaction that nothing is in store for is accepted, and asking for it
takes no time. -/
theorem runOn_nodeStatus {ledger : Ledger} (hlane : lane ≠ .c)
    (hsettled : ledger.holdings.outlook.Settled) :
    (nodeStatus client lane tx).runOn (Timeline.handler answer) (moment epoch base now ledger)
      = (.ok .accepted, moment epoch base now (ledger.asked tx)) := by
  cases lane with
  | x => rw [nodeStatus, Attempt.runOn_map,
      runOn_call client (.xStatus tx) (fun _ => rfl) (Ledger.run_xStatus hsettled tx)]; rfl
  | p => rw [nodeStatus, Attempt.runOn_map,
      runOn_call client (.pStatus tx) (fun _ => rfl) (Ledger.run_pStatus hsettled tx)]; rfl
  | c => exact absurd rfl hlane

/-- **A wait for a transaction that nothing is in store for is over at
once**, whatever its settings. -/
theorem runOn_await {ledger : Ledger} (hlane : lane ≠ .c)
    (hsettled : ledger.holdings.outlook.Settled) :
    (Acceptance.await (nodeStatus client lane) tx lane settings).runOn (Timeline.handler answer)
        (moment epoch base now ledger)
      = (.ok (), moment epoch base now (ledger.asked tx)) := by
  -- one question is enough, whatever the budget is
  obtain ⟨left, hleft⟩ : ∃ left, Acceptance.maxPolls = left + 1 := ⟨2 ^ 32 - 2, rfl⟩
  have hstatus : ((nodeStatus client lane tx).outcome :
      Attempt (Timed (Clients LocalClient)) AcceptanceError _).runOn (Timeline.handler answer)
        (moment epoch base now ledger)
      = (.ok (.ok .accepted), moment epoch base now (ledger.asked tx)) := by
    rw [Attempt.runOn_outcome, runOn_nodeStatus hlane hsettled]
  unfold Acceptance.await
  rw [hleft]
  exact (Attempt.runOn_bind_ok hstatus).trans rfl

theorem drives_await (hlane : lane ≠ .c) (hsettled : h.outlook.Settled) :
    Drives epoch base (Acceptance.await (nodeStatus client lane) tx lane settings) now h
      fun _ later left => later = now ∧ left = h := by
  rintro ledger rfl
  exact ⟨(), now, ledger.asked tx, runOn_await hlane hsettled, rfl, rfl⟩

/-- What a node reports as a balance. -/
theorem runOn_nodeBalance {ledger : Ledger} {asset address : String} :
    (nodeBalance client lane asset address).runOn (Timeline.handler answer)
        (moment epoch base now ledger)
      = (.ok (ledger.holdings.on lane address), moment epoch base now ledger) := by
  cases lane <;> rfl

/-- **A check of a balance** compares what the ledger holds. -/
theorem runOn_check {ledger : Ledger} {asset address : String} {expected : Nat} :
    (Balance.check (nodeBalance client lane asset) lane address expected).runOn
        (Timeline.handler answer) (moment epoch base now ledger)
      = (if ledger.holdings.on lane address = expected then .ok ()
          else Outcome.failed (.mismatch lane address expected (ledger.holdings.on lane address)),
        moment epoch base now ledger) := by
  have hbalance : ((nodeBalance client lane asset address).wrap
        (BalanceError.query lane address)).runOn (Timeline.handler answer)
        (moment epoch base now ledger)
      = (.ok (ledger.holdings.on lane address), moment epoch base now ledger) := by
    rw [Attempt.runOn_wrap, runOn_nodeBalance]
    rfl
  unfold Balance.check
  rw [Attempt.runOn_bind_ok hbalance]
  split <;> rfl

/-- Asking for a balance is looking at the ledger. -/
theorem observes_nodeBalance {ledger : Ledger} {asset address : String} :
    (nodeBalance client lane asset address).Observes answer { base with ledger }
      (.ok (ledger.holdings.on lane address)) := by
  cases lane
  case x => exact .query rfl (.done _)
  case p => exact .query rfl (.done _)
  case c => exact .query rfl (.done _)

/-- **A balance that is as it has to be** passes its check. -/
theorem drives_check {asset address : String} {expected : Nat}
    (hbalance : h.on lane address = expected) :
    Drives epoch base (Balance.check (nodeBalance client lane asset) lane address expected) now h
      fun _ later left => later = now ∧ left = h := by
  rintro ledger rfl
  exact ⟨(), now, ledger, by rw [runOn_check, if_pos hbalance], rfl, rfl⟩

end LocalNetwork

end LedgerNet
