import LedgerNet.Proofs.Fleet.Waves
import LedgerNet.Proofs.Program.Invariants
import LedgerNet.Rehearsal.LocalNetwork
import Mathlib.Data.List.Induction

/-!
# The fleet and what is running

The fleet is what is known of the services of a network, and a service can be
running without being known: when no client can be bound to it, or when it is
removed, it is asked to stop, and that can fail. This module says that there
is no other way for the two to come apart. Whatever calls are made and
whatever fails in them, every node of the fleet is running at the address that
its start returned, and what is running beside them is what failed to stop
when it was last asked to.

All of it holds of histories in which no service starts that is running
(`Faithful`). A lifecycle that refuses to start what is running has no others,
and what its services are can be read off its history (`Lifecycle.keeps`).
-/

namespace LedgerNet

variable {κ σ : Type}

/-! ## What a history says about services -/

namespace NetworkEvent

/-- Whether a service is running after an event, and where. -/
def running (id : String) (current : Option Ip) : NetworkEvent κ → Option Ip
  | start spec (.ok ip) => if spec.id = id then some ip else current
  | stop other _ (.ok ()) => if other = id then none else current
  | _ => current

/-- The address at which a service has started by then. -/
def startedAt (id : String) (last : Option Ip) : NetworkEvent κ → Option Ip
  | start spec (.ok ip) => if spec.id = id then some ip else last
  | _ => last

/-- What has come of stopping a service by then. -/
def stoppedWith (id : String) (last : Option (Except ServiceError Unit)) :
    NetworkEvent κ → Option (Except ServiceError Unit)
  | stop other _ reply => if other = id then some reply else last
  | _ => last

/-- **Nothing happens to a service** in an event: it neither starts, nor is it
asked to stop. -/
def Spares (id : String) : NetworkEvent κ → Prop
  | start spec (.ok _) => spec.id ≠ id
  | stop other _ _ => other ≠ id
  | _ => True

end NetworkEvent

/-- **Whether a service is running after some events**, and where, if nothing
was running before. -/
def runningAfter (history : List (NetworkEvent κ)) (id : String) : Option Ip :=
  history.foldl (NetworkEvent.running id) none

/-- **What the last start of a service returned**, of those that did not
fail. -/
def lastStart? (history : List (NetworkEvent κ)) (id : String) : Option Ip :=
  history.foldl (NetworkEvent.startedAt id) none

/-- **What came of the last stop** of a service. -/
def lastStop? (history : List (NetworkEvent κ)) (id : String) : Option (Except ServiceError Unit) :=
  history.foldl (NetworkEvent.stoppedWith id) none

/-- **No service starts that is running.** -/
def Faithful (history : List (NetworkEvent κ)) : Prop :=
  ∀ before spec ip after, history = before ++ .start spec (.ok ip) :: after →
    runningAfter before spec.id = none

section Histories

variable {history : List (NetworkEvent κ)} {id : String}

theorem runningAfter_append (more : List (NetworkEvent κ)) : runningAfter (history ++ more) id
    = more.foldl (NetworkEvent.running id) (runningAfter history id) :=
  List.foldl_append

theorem lastStart?_append (more : List (NetworkEvent κ)) : lastStart? (history ++ more) id
    = more.foldl (NetworkEvent.startedAt id) (lastStart? history id) :=
  List.foldl_append

theorem lastStop?_append (more : List (NetworkEvent κ)) : lastStop? (history ++ more) id
    = more.foldl (NetworkEvent.stoppedWith id) (lastStop? history id) :=
  List.foldl_append

/-- What no event changes is not changed by all of them. -/
theorem foldl_eq_self {α : Type} {f : α → NetworkEvent κ → α}
    (h : ∀ event ∈ history, ∀ value, f value event = value) (value : α) :
    history.foldl f value = value := by
  induction history with
  | nil => rfl
  | cons event rest ih =>
    obtain ⟨hfirst, hrest⟩ := List.forall_mem_cons.1 h
    rw [List.foldl_cons, hfirst, ih hrest]

section Spared

variable {more : List (NetworkEvent κ)} (h : ∀ event ∈ more, event.Spares id)
include h

theorem runningAfter_of_spares : runningAfter (history ++ more) id = runningAfter history id := by
  rw [runningAfter_append]
  refine foldl_eq_self (fun event hmem value => ?_) _
  have hspares := h event hmem
  rcases event with ⟨spec, _ | ip⟩ | ⟨other, grace, _ | _⟩ | _ | _
  · rfl
  · exact if_neg hspares
  · rfl
  · exact if_neg hspares
  · rfl
  · rfl

theorem lastStart?_of_spares : lastStart? (history ++ more) id = lastStart? history id := by
  rw [lastStart?_append]
  refine foldl_eq_self (fun event hmem value => ?_) _
  have hspares := h event hmem
  rcases event with ⟨spec, _ | ip⟩ | _ | _ | _
  · rfl
  · exact if_neg hspares
  · rfl
  · rfl
  · rfl

theorem lastStop?_of_spares : lastStop? (history ++ more) id = lastStop? history id := by
  rw [lastStop?_append]
  refine foldl_eq_self (fun event hmem value => ?_) _
  have hspares := h event hmem
  cases event with
  | stop other grace reply => exact if_neg hspares
  | start | connect | query => rfl

end Spared

/-- The beginning of a history in which no service starts that is running is
one, too. -/
theorem Faithful.left {more : List (NetworkEvent κ)} (h : Faithful (history ++ more)) :
    Faithful history := by
  rintro before spec ip after rfl
  exact h before spec ip (after ++ more) (by simp)

/-- One more event that does not start what is running. -/
theorem Faithful.concat (h : Faithful history) {event : NetworkEvent κ}
    (hstart : ∀ spec ip, event = .start spec (.ok ip) → runningAfter history spec.id = none) :
    Faithful (history ++ [event]) := by
  intro before spec ip after hsplit
  rcases split_append hsplit with ⟨rest, hhistory, -⟩ | ⟨front, rfl, hevent⟩
  · exact h before spec ip rest hhistory
  · rcases List.singleton_eq_append_iff.1 hevent with ⟨rfl, heq⟩ | ⟨-, hnever⟩
    · rw [List.append_nil]
      exact hstart spec ip (List.cons.inj heq).1.symm
    · cases hnever

end Histories

namespace Fleet

variable {β : Type} {d : Definition} {node : NodeConfig} {nodes : List NodeConfig}
  {fleet left : Fleet κ} {sequel : Sequel κ β} {before history : List (NetworkEvent κ)}

/-! ## The fleet agrees with the services -/

/-- **The fleet agrees with what is running** after some events: all of it is
running where it started last, and what else is running is what failed to
stop. -/
structure Registered (fleet : Fleet κ) (history : List (NetworkEvent κ)) : Prop where
  running : ∀ tracked ∈ fleet.nodes, runningAfter history tracked.id = some tracked.ip
  started : ∀ tracked ∈ fleet.nodes, lastStart? history tracked.id = some tracked.ip
  stopped : ∀ id, (∃ ip, runningAfter history id = some ip) ∧ fleet.contains id = false
    ↔ ∃ cause, lastStop? history id = some (.error cause)

/-- Nothing is known and nothing is running in the beginning. -/
theorem registered_empty (settings : FleetSettings) :
    Registered (Fleet.empty settings : Fleet κ) [] where
  running _ hmem := absurd hmem List.not_mem_nil
  started _ hmem := absurd hmem List.not_mem_nil
  stopped id := by simp [runningAfter, lastStop?]

namespace Registered

variable (h : Registered fleet before)
include h

/-- Where nothing happens to any service nothing changes. -/
theorem append_of_spares {more : List (NetworkEvent κ)}
    (hspares : ∀ id, ∀ event ∈ more, event.Spares id) : Registered fleet (before ++ more) where
  running tracked hmem := by
    rw [runningAfter_of_spares (hspares tracked.id)]
    exact h.running tracked hmem
  started tracked hmem := by
    rw [lastStart?_of_spares (hspares tracked.id)]
    exact h.started tracked hmem
  stopped id := by
    rw [runningAfter_of_spares (hspares id), lastStop?_of_spares (hspares id)]
    exact h.stopped id

/-- Asking nodes changes nothing. -/
theorem append_queries (log : List (Exchange (Clients κ))) :
    Registered fleet (before ++ log.map .query) := by
  refine h.append_of_spares fun id event hmem => ?_
  obtain ⟨exchange, -, rfl⟩ := List.mem_map.1 hmem
  trivial

/-- What is not running is not in the fleet. -/
theorem ne_of_not_running {id : String} (hid : runningAfter before id = none) :
    ∀ tracked ∈ fleet.nodes, tracked.id ≠ id := by
  rintro tracked hmem rfl
  rw [h.running tracked hmem] at hid
  cases hid

/-- **Where something happens to one service only** the fleet still agrees with
what is running if it does so about that service, and if it is otherwise what
it was. -/
theorem append_of_one {changed : Fleet κ} {id : String} {more : List (NetworkEvent κ)}
    (hspares : ∀ other, other ≠ id → ∀ event ∈ more, event.Spares other)
    (hnodes : ∀ tracked ∈ changed.nodes, tracked.id ≠ id ∧ tracked ∈ fleet.nodes
      ∨ tracked.id = id ∧ runningAfter (before ++ more) id = some tracked.ip
        ∧ lastStart? (before ++ more) id = some tracked.ip)
    (hothers : ∀ other, other ≠ id → changed.contains other = fleet.contains other)
    (hstopped : (∃ ip, runningAfter (before ++ more) id = some ip) ∧ changed.contains id = false
      ↔ ∃ cause, lastStop? (before ++ more) id = some (.error cause)) :
    Registered changed (before ++ more) where
  running tracked hmem := by
    rcases hnodes tracked hmem with ⟨hne, hkept⟩ | ⟨rfl, hrunning, -⟩
    · rw [runningAfter_of_spares (hspares tracked.id hne)]
      exact h.running tracked hkept
    · exact hrunning
  started tracked hmem := by
    rcases hnodes tracked hmem with ⟨hne, hkept⟩ | ⟨rfl, -, hstarted⟩
    · rw [lastStart?_of_spares (hspares tracked.id hne)]
      exact h.started tracked hkept
    · exact hstarted
  stopped other := by
    by_cases heq : other = id
    · rw [heq]
      exact hstopped
    · rw [runningAfter_of_spares (hspares other heq), lastStop?_of_spares (hspares other heq),
        hothers other heq]
      exact h.stopped other

/-- **A service that starts and is asked to stop at once**, because no client
can be bound to it. -/
theorem append_notBound {spec : ServiceSpec} (hnew : runningAfter before spec.id = none) (ip : Ip)
    (cause : ApiError) (grace : Duration) (reply : Except ServiceError Unit) :
    Registered fleet (before ++ [.start spec (.ok ip), .connect ip (.error cause),
      .stop spec.id grace reply]) := by
  have hnodes := h.ne_of_not_running hnew
  refine @append_of_one _ _ _ h fleet spec.id _ ?_ ?_ (fun _ _ => rfl) ?_
  · intro other hne
    simp [NetworkEvent.Spares, hne.symm]
  · exact fun tracked hmem => Or.inl ⟨hnodes tracked hmem, hmem⟩
  · have huntracked : fleet.contains spec.id = false := contains_eq_false_iff.2 hnodes
    cases reply <;> simp [runningAfter_append, lastStop?_append, NetworkEvent.running,
      NetworkEvent.stoppedWith, huntracked]

/-- **A service that starts and is entered** in the fleet. -/
theorem append_started {spec : ServiceSpec} (hnew : runningAfter before spec.id = none) (ip : Ip)
    (client : κ) : Registered (fleet.insert ⟨spec.id, ip, client⟩)
      (before ++ [.start spec (.ok ip), .connect ip (.ok client)]) := by
  have hnodes := h.ne_of_not_running hnew
  refine @append_of_one _ _ _ h _ spec.id _ ?_ ?_ ?_ ?_
  · intro other hne
    simp [NetworkEvent.Spares, hne.symm]
  · intro tracked hmem
    rcases List.mem_append.1 hmem with hkept | hentered
    · exact Or.inl ⟨hnodes tracked hkept, hkept⟩
    · rw [List.mem_singleton.1 hentered]
      simp [runningAfter_append, lastStart?_append, NetworkEvent.running, NetworkEvent.startedAt]
  · intro other hne
    rw [contains_insert, beq_eq_false_iff_ne.2 hne.symm, Bool.or_false]
  · have hentered : (fleet.insert ⟨spec.id, ip, client⟩).contains spec.id = true := by
      simp [contains_insert]
    -- it was not running before, so it had not failed to stop
    have hnotFailed : ¬ ∃ cause, lastStop? before spec.id = some (.error cause) := by
      rw [← h.stopped, hnew]
      rintro ⟨⟨_, hnever⟩, -⟩
      cases hnever
    rw [hentered, lastStop?_append]
    exact ⟨fun hnever => absurd hnever.2.symm Bool.false_ne_true,
      fun hfailed => absurd hfailed hnotFailed⟩

/-- **A service that is taken out** of the fleet and asked to stop. -/
theorem append_removed {id : String} (hid : fleet.contains id = true) (grace : Duration)
    (reply : Except ServiceError Unit) :
    Registered (fleet.erase id) (before ++ [.stop id grace reply]) := by
  refine @append_of_one _ _ _ h _ id _ ?_ ?_ ?_ ?_
  · intro other hne
    simp [NetworkEvent.Spares, hne.symm]
  · intro tracked hmem
    obtain ⟨hkept, hne⟩ := List.mem_filter.1 hmem
    exact Or.inl ⟨bne_iff_ne.1 hne, hkept⟩
  · intro other hne
    rw [contains_erase, bne_iff_ne.2 hne, Bool.and_true]
  · obtain ⟨tracked, hmem, rfl⟩ := contains_iff.1 hid
    cases reply <;> simp [runningAfter_append, lastStop?_append, NetworkEvent.running,
      NetworkEvent.stoppedWith, contains_erase, h.running tracked hmem]

/-! ## Calls -/

/-- **A creation keeps the fleet and the services in agreement**, whatever
becomes of it. -/
theorem made {outcome : Outcome FleetError β}
    (hmade : Made d sequel node fleet history outcome left)
    (hfaithful : Faithful (before ++ history)) : Registered left (before ++ history) := by
  cases hmade with
  | unmade hunmade =>
    cases hunmade with
    | taken => rwa [List.append_nil]
    | unlinked => rwa [List.append_nil]
    | notStarted new ips links cause =>
      refine h.append_of_spares fun id event hmem => ?_
      rw [List.mem_singleton.1 hmem]
      trivial
    | notBound new ips links ip cause reply =>
      exact h.append_notBound (hfaithful before _ ip _ rfl) ip cause _ reply
  | @made _ ips _ ip client said _ _ =>
    have hstarted := h.append_started (hfaithful before _ ip _ rfl) ip client
    have hall := hstarted.append_queries said
    rwa [List.append_assoc] at hall

/-- **Creations in turn** keep it, too. -/
theorem inTurn {outcome : Outcome FleetError (List β)}
    (hturn : InTurn d sequel nodes fleet history outcome left)
    (hfaithful : Faithful (before ++ history)) : Registered left (before ++ history) := by
  induction hturn generalizing before with
  | finished => rwa [List.append_nil]
  | failed hmade => exact h.made hmade hfaithful
  | passed hmade _ ih =>
    rw [← List.append_assoc] at hfaithful ⊢
    exact ih (h.made hmade hfaithful.left) hfaithful

/-- **The start of a network** keeps it. -/
theorem starting {outcome : Outcome FleetError Unit}
    (hstarting : Starting d fleet history outcome left)
    (hfaithful : Faithful (before ++ history)) : Registered left (before ++ history) := by
  cases hstarting with
  | uncreated row => exact h.inTurn row hfaithful
  | unready row wave =>
    rw [← List.append_assoc] at hfaithful ⊢
    exact (h.inTurn row hfaithful.left).append_queries _
  | waved row wave others =>
    rw [← List.append_assoc, ← List.append_assoc] at hfaithful ⊢
    exact ((h.inTurn row hfaithful.left.left).append_queries _).inTurn others hfaithful

/-- **A removal** keeps it. -/
theorem remove {id : String} {outcome : Outcome FleetError Unit}
    (hunfolds : (Fleet.remove id).Unfolds fleet history outcome left) :
    Registered left (before ++ history) := by
  rcases unfolds_remove hunfolds with ⟨-, rfl, rfl⟩ | ⟨hid, rfl, reply, rfl⟩
  · rwa [List.append_nil]
  · exact h.append_removed hid _ _

end Registered

/-! ## Sequences of calls -/

/-- **A call that may change the fleet.** -/
inductive Call where
  | create (d : Definition) (node : NodeConfig)
  | createUnchecked (d : Definition) (node : NodeConfig)
  | remove (id : String)
  | startNetwork (d : Definition)

/-- What a call does. -/
def Call.action : Call → FleetAction κ FleetError Unit
  | create d node => do let _ ← Fleet.create d node
  | createUnchecked d node => do let _ ← Fleet.createUnchecked d node
  | remove id => Fleet.remove id
  | startNetwork d => Fleet.startNetwork d

/-- **Calls one after another**, whatever each of them ends with. -/
def runCalls (deployment : Deployment κ σ) :
    List Call → Fleet κ → Timeline σ → Fleet κ × Timeline σ
  | [], fleet, t => (fleet, t)
  | call :: rest, fleet, t =>
    let ended := call.action.runOn deployment.handler fleet t
    runCalls deployment rest ended.1.2 ended.2

/-- **A call keeps the fleet and the services in agreement.** -/
theorem Registered.call (h : Registered fleet before) {call : Call}
    {outcome : Outcome FleetError Unit} (hunfolds : call.action.Unfolds fleet history outcome left)
    (hfaithful : Faithful (before ++ history)) : Registered left (before ++ history) := by
  cases call with
  | create d node =>
    obtain ⟨ended, hmade, -⟩ := Action.unfolds_discard hunfolds
    exact h.made (made_create hmade) hfaithful
  | createUnchecked d node =>
    obtain ⟨ended, hmade, -⟩ := Action.unfolds_discard hunfolds
    exact h.made (made_createUnchecked hmade) hfaithful
  | remove id => exact h.remove hunfolds
  | startNetwork d => exact h.starting (starting_startNetwork hunfolds) hfaithful

end Fleet

/-! ## Lifecycles -/

/-- **A lifecycle that knows what is running**: `running` is what it knows in
every world that it can be in. It refuses to start what is running, and what
it starts is running at the address that it returns. What it fails to start
and what it fails to stop is as it was. -/
structure Deployment.Lifecycle (deployment : Deployment κ σ) (running : σ → String → Option Ip) :
    Prop where
  started : ∀ spec world ip, (deployment.start spec world).1 = .ok ip →
    running world spec.id = none ∧ ∀ id, running (deployment.start spec world).2 id
      = if spec.id = id then some ip else running world id
  notStarted : ∀ spec world cause, (deployment.start spec world).1 = .error cause →
    ∀ id, running (deployment.start spec world).2 id = running world id
  stopped : ∀ other grace world, (deployment.stop other grace world).1 = .ok () →
    ∀ id, running (deployment.stop other grace world).2 id
      = if other = id then none else running world id
  notStopped : ∀ other grace world cause, (deployment.stop other grace world).1 = .error cause →
    ∀ id, running (deployment.stop other grace world).2 id = running world id
  connect : ∀ ip world id, running (deployment.connect ip world).2 id = running world id
  answer : ∀ question world id, running (deployment.answer question world).2 id = running world id

/-- **A history tells what is running**: it leads there from nothing, and never
starts what is running. -/
structure Tells (history : List (NetworkEvent κ)) (running : String → Option Ip) : Prop where
  running_eq : ∀ id, running id = runningAfter history id
  faithful : Faithful history

namespace Deployment.Lifecycle

variable {deployment : Deployment κ σ} {running : σ → String → Option Ip}

/-- **What is running can be told from the record.** -/
theorem keeps (h : deployment.Lifecycle running) :
    deployment.recorded.Keeps fun memory => Tells memory.2 (running memory.1) := by
  refine deployment.keeps_recorded (fun world history => Tells history (running world)) ?_ ?_ ?_ ?_
  · rintro question world history ⟨hrunning, hfaithful⟩
    refine ⟨fun id => ?_, hfaithful.concat nofun⟩
    rw [h.answer, hrunning, runningAfter_append]
    rfl
  · rintro spec world history ⟨hrunning, hfaithful⟩
    cases hreply : (deployment.start spec world).1 with
    | error cause =>
      refine ⟨fun id => ?_, hfaithful.concat nofun⟩
      rw [h.notStarted spec world cause hreply, hrunning, runningAfter_append]
      rfl
    | ok ip =>
      obtain ⟨hnew, hstarted⟩ := h.started spec world ip hreply
      refine ⟨fun id => ?_, hfaithful.concat ?_⟩
      · rw [hstarted, hrunning, runningAfter_append]
        rfl
      · intro other address heq
        obtain ⟨rfl, -⟩ := NetworkEvent.start.inj heq
        rw [← hrunning, hnew]
  · rintro other grace world history ⟨hrunning, hfaithful⟩
    cases hreply : (deployment.stop other grace world).1 with
    | error cause =>
      refine ⟨fun id => ?_, hfaithful.concat nofun⟩
      rw [h.notStopped other grace world cause hreply, hrunning, runningAfter_append]
      rfl
    | ok value =>
      refine ⟨fun id => ?_, hfaithful.concat nofun⟩
      rw [h.stopped other grace world hreply, hrunning, runningAfter_append]
      rfl
  · rintro ip world history ⟨hrunning, hfaithful⟩
    refine ⟨fun id => ?_, hfaithful.concat nofun⟩
    rw [h.connect, hrunning, runningAfter_append]
    rfl

end Deployment.Lifecycle

/-! ## Agreement after every call -/

/-- What a service was last stopped with is on record. -/
theorem mem_of_lastStop?_eq_some {history : List (NetworkEvent κ)} {id : String}
    {reply : Except ServiceError Unit} (h : lastStop? history id = some reply) :
    ∃ grace, .stop id grace reply ∈ history := by
  induction history using List.reverseRecOn with
  | nil => cases h
  | append_singleton history event ih =>
    rw [lastStop?_append] at h
    have hbefore : lastStop? history id = some reply →
        ∃ grace, .stop id grace reply ∈ history ++ [event] := fun hlast =>
      (ih hlast).imp fun _ hmem => List.mem_append_left _ hmem
    cases event with
    | stop other grace last =>
      by_cases heq : other = id
      · obtain rfl := Option.some.inj ((if_pos heq).symm.trans h)
        exact ⟨grace, by simp [heq]⟩
      · exact hbefore ((if_neg heq).symm.trans h)
    | start | connect | query => exact hbefore h

namespace Fleet

/-- **The fleet agrees with the services that are running**, given what has
happened so far. -/
structure Agrees (running : String → Option Ip) (fleet : Fleet κ)
    (history : List (NetworkEvent κ)) : Prop where
  /-- A node of the fleet is running at the address that its start returned. -/
  tracked : ∀ node ∈ fleet.nodes,
    running node.id = some node.ip ∧ lastStart? history node.id = some node.ip
  /-- What is running beside the fleet is what failed to stop when it was last
  asked to. -/
  untracked : ∀ id, (running id).isSome = true ∧ fleet.contains id = false
    ↔ ∃ cause, lastStop? history id = some (.error cause)
  /-- If nothing has failed to stop, the fleet is what is running. -/
  coincide : (∀ id grace cause, .stop id grace (.error cause) ∉ history) →
    ∀ id, fleet.contains id = (running id).isSome

/-- **Agreement can be told from the record.** -/
theorem Registered.agrees {fleet : Fleet κ} {history : List (NetworkEvent κ)}
    {running : String → Option Ip} (h : Registered fleet history) (htells : Tells history running) :
    Agrees running fleet history := by
  have huntracked : ∀ id, (running id).isSome = true ∧ fleet.contains id = false
      ↔ ∃ cause, lastStop? history id = some (.error cause) := by
    intro id
    rw [← h.stopped, htells.running_eq, Option.isSome_iff_exists]
  refine ⟨fun node hmem => ⟨?_, h.started node hmem⟩, huntracked, fun hstops id => ?_⟩
  · rw [htells.running_eq]
    exact h.running node hmem
  · cases hknown : fleet.contains id with
    | true =>
      obtain ⟨node, hmem, rfl⟩ := contains_iff.1 hknown
      rw [htells.running_eq, h.running node hmem]
      rfl
    | false =>
      refine (Bool.eq_false_iff.2 fun hrunning => ?_).symm
      obtain ⟨cause, hlast⟩ := (huntracked id).1 ⟨hrunning, hknown⟩
      obtain ⟨grace, hmem⟩ := mem_of_lastStop?_eq_some hlast
      exact hstops id grace cause hmem

/-- **Calls one after another** keep the fleet and the services in agreement. -/
theorem Registered.runCalls {deployment : Deployment κ σ} {running : σ → String → Option Ip}
    (hlifecycle : deployment.Lifecycle running) (calls : List Call) {fleet : Fleet κ}
    {t : Timeline (σ × List (NetworkEvent κ))} (h : Registered fleet t.world.2)
    (htells : Tells t.world.2 (running t.world.1)) :
    Registered (Fleet.runCalls deployment.recorded calls fleet t).1
        (Fleet.runCalls deployment.recorded calls fleet t).2.world.2
      ∧ Tells (Fleet.runCalls deployment.recorded calls fleet t).2.world.2
        (running (Fleet.runCalls deployment.recorded calls fleet t).2.world.1) := by
  induction calls generalizing fleet t with
  | nil => exact ⟨h, htells⟩
  | cons call rest ih =>
    obtain ⟨history, hrecord, hunfolds⟩ :=
      Action.unfolds_runOn deployment call.action fleet t
    have hlater := hlifecycle.keeps.runOn call.action fleet t htells
    refine ih ?_ hlater
    rw [hrecord]
    exact h.call hunfolds (hrecord ▸ hlater.faithful)

/-- **The fleet agrees with the services that are running** after any calls,
whatever fails in them, on every lifecycle that knows what is running and on
which nothing was running in the beginning. -/
theorem runCalls_agrees (deployment : Deployment κ σ) {running : σ → String → Option Ip}
    (hlifecycle : deployment.Lifecycle running) (settings : FleetSettings) (calls : List Call)
    (epoch now : Duration) (world : σ) (hworld : ∀ id, running world id = none) :
    Agrees
      (running (runCalls deployment.recorded calls (Fleet.empty settings)
        ⟨epoch, now, world, []⟩).2.world.1)
      (runCalls deployment.recorded calls (Fleet.empty settings) ⟨epoch, now, world, []⟩).1
      (runCalls deployment.recorded calls (Fleet.empty settings)
        ⟨epoch, now, world, []⟩).2.world.2 := by
  have hnothing : Tells ([] : List (NetworkEvent κ)) (running world) :=
    ⟨fun id => hworld id, fun before spec ip after hsplit => by simp at hsplit⟩
  obtain ⟨hregistered, htells⟩ := Registered.runCalls hlifecycle calls
    (t := ⟨epoch, now, world, []⟩) (registered_empty settings) hnothing
  exact hregistered.agrees htells

end Fleet

namespace LocalNetwork

/-- Where the services of a network in memory are. -/
def ipOf? (network : LocalNetwork) (id : String) : Option Ip :=
  (network.services.get? id).map LocalService.ip

/-- **A start on a network in memory** is refused and leaves the services as they
are, or it is that of a new service. -/
theorem start_spec (spec : ServiceSpec) (network : LocalNetwork) :
    (∃ cause, (start spec network).1 = .error cause
        ∧ (start spec network).2.services = network.services)
      ∨ network.services.get? spec.id = none
        ∧ ∃ service : LocalService, (start spec network).1 = .ok service.ip
          ∧ (start spec network).2.services = network.services.put spec.id service := by
  cases hknown : network.services.get? spec.id with
  | some service =>
    refine Or.inl ⟨.ofText ("service " ++ spec.id ++ " already running"), ?_⟩
    simp [start, hknown]
  | none =>
    cases hnext : nextAddress network.startOrder.length with
    | error cause => exact Or.inl ⟨cause, by simp [start, hknown, hnext]⟩
    | ok ip =>
      refine Or.inr ⟨rfl, ⟨ip, spec.image,
        spec.command ip (spec.mountsIn Conventions.volumeMountpoint)⟩, ?_⟩
      simp [start, hknown, hnext]

/-- **A stop on a network in memory** takes a service away, or is refused and
leaves the services as they are. -/
theorem stop_spec (id : String) (network : LocalNetwork) :
    (∃ cause, (stop id network).1 = .error cause ∧ (stop id network).2.services = network.services)
      ∨ (stop id network).1 = .ok ()
        ∧ (stop id network).2.services = network.services.erase id := by
  unfold stop
  split
  · exact Or.inr ⟨rfl, rfl⟩
  · exact Or.inl ⟨_, rfl, rfl⟩

/-- **The network in memory knows what is running.** -/
theorem lifecycle : deployment.Lifecycle ipOf? where
  started spec network ip hok := by
    rcases start_spec spec network with ⟨cause, herror, -⟩ | ⟨hnew, service, hstarted, hservices⟩
    · cases herror.symm.trans hok
    obtain rfl := Except.ok.inj (hstarted.symm.trans hok)
    refine ⟨by rw [ipOf?, hnew]; rfl, fun id => ?_⟩
    show ((start spec network).2.services.get? id).map LocalService.ip = _
    rw [hservices]
    split
    · rename_i heq
      rw [heq, Book.get?_put_self]
      rfl
    · rename_i hne
      rw [Book.get?_put_of_ne _ (Ne.symm hne)]
      rfl
  notStarted spec network cause herror id := by
    rcases start_spec spec network with ⟨_, -, hservices⟩ | ⟨-, _, hstarted, -⟩
    · exact congrArg (fun services => (Book.get? services id).map LocalService.ip) hservices
    · cases hstarted.symm.trans herror
  stopped other grace network hok id := by
    rcases stop_spec other network with ⟨_, herror, -⟩ | ⟨-, hservices⟩
    · cases herror.symm.trans hok
    show ((stop other network).2.services.get? id).map LocalService.ip = _
    rw [hservices]
    split
    · rename_i heq
      rw [heq, Book.get?_erase_self]
      rfl
    · rename_i hne
      rw [Book.get?_erase_of_ne _ (Ne.symm hne)]
      rfl
  notStopped other grace network cause herror id := by
    rcases stop_spec other network with ⟨_, -, hservices⟩ | ⟨hok, -⟩
    · exact congrArg (fun services => (Book.get? services id).map LocalService.ip) hservices
    · cases hok.symm.trans herror
  connect ip network id := rfl
  answer question network id := by
    obtain ⟨client, call⟩ := question
    cases call <;> rfl

end LocalNetwork

/-- A node that is created twice and removed twice, on a network in memory: the fleet agrees with
the services that are running. -/
theorem Fleet.runCalls_agrees_localNetwork :
    let node : NodeConfig := ⟨.plain .empty "node", []⟩
    let d : Definition := ⟨⟨"image", 1, 1, 1⟩, [node], []⟩
    let network := LocalNetwork.ofGenesis ⟨[], ⟨"", ""⟩⟩ 0
    let calls : List Call := [.createUnchecked d node, .create d node, .remove "node",
      .remove "node", .startNetwork d]
    (∀ id, network.ipOf? id = none)
      ∧ ∃ left ended, runCalls LocalNetwork.deployment.recorded calls
          (Fleet.empty LocalNetwork.fleetSettings) ⟨⟨0⟩, ⟨0⟩, network, []⟩ = (left, ended)
        ∧ Agrees ended.world.1.ipOf? left ended.world.2 := by
  intro node d network calls
  have hworld : ∀ id, network.ipOf? id = none := fun _ => rfl
  have hagrees := runCalls_agrees LocalNetwork.deployment LocalNetwork.lifecycle
    LocalNetwork.fleetSettings calls ⟨0⟩ ⟨0⟩ network hworld
  generalize runCalls LocalNetwork.deployment.recorded calls
    (Fleet.empty LocalNetwork.fleetSettings) ⟨⟨0⟩, ⟨0⟩, network, []⟩ = run at hagrees ⊢
  exact ⟨hworld, run.1, run.2, rfl, hagrees⟩

end LedgerNet
