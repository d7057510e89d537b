import LedgerNet.Proofs.Acceptance.Conversation
import LedgerNet.Proofs.Program.Minutes

/-!
# When a transaction is seen to be accepted

A wait that ends well ends with its last question, and no time passes after
that. So the time of the wait's end is the time at which the transaction was
seen to be accepted, whatever was replied before and however the clock rounds
the pauses between the questions (`Acceptance.minutes_await`).
-/

namespace LedgerNet

/-- **The first one of a kind** splits a list in one way. -/
theorem append_cons_inj_of_first {α : Type} {p : α → Prop} {before before' after after' : List α}
    {x x' : α} (h : before ++ x :: after = before' ++ x' :: after')
    (hbefore : ∀ y ∈ before, ¬ p y) (hbefore' : ∀ y ∈ before', ¬ p y) (hx : p x) (hx' : p x') :
    before = before' ∧ x = x' ∧ after = after' := by
  obtain ⟨between, rfl, hrest⟩ | ⟨between, rfl, hrest⟩ := List.append_eq_append_iff.1 h
  · cases between with
    | nil => exact ⟨(List.append_nil _).symm, List.cons.inj hrest⟩
    | cons y between =>
      obtain ⟨rfl, -⟩ := List.cons.inj hrest
      exact absurd hx (hbefore' x (List.mem_append_right _ List.mem_cons_self))
  · cases between with
    | nil =>
      obtain ⟨rfl, rfl⟩ := List.cons.inj hrest
      exact ⟨List.append_nil _, rfl, rfl⟩
    | cons y between =>
      obtain ⟨rfl, -⟩ := List.cons.inj hrest
      exact absurd hx' (hbefore x' (List.mem_append_right _ List.mem_cons_self))

/-- What leaves the matter open is no acceptance. -/
theorem Exchange.IsOpen.not_isAccepted {κ : Type} {exchange : Exchange (Clients κ)}
    (h : exchange.IsOpen) : ¬ exchange.IsAccepted := by
  intro haccepted
  unfold IsAccepted at haccepted
  obtain hpending | ⟨cause, hfailed, -⟩ := h
  · cases haccepted.symm.trans hpending
  · cases haccepted.symm.trans hfailed

namespace Acceptance

variable {σ κ : Type} {round : Duration → Duration} {answer : Proc.Handler (Clients κ) σ}
  {client : κ} {lane : Lane} {tx : TxId} {settings : PollSettings} {t t' : Timeline σ}

/-- A question for a transaction takes no time. -/
theorem minutes_nodeStatus (hlane : lane ≠ .c) (t : Timeline σ) :
    ∃ exchange, (nodeStatus client lane tx).minutes (Timeline.handlerOn round answer) t
        = [⟨t.now, exchange⟩]
      ∧ ((nodeStatus client lane tx).runOn (Timeline.handlerOn round answer) t).2.now
        = t.now := by
  cases lane with
  | x => exact ⟨_, Attempt.minutes_map _, by rw [nodeStatus, Attempt.runOn_map]; rfl⟩
  | p => exact ⟨_, Attempt.minutes_map _, by rw [nodeStatus, Attempt.runOn_map]; rfl⟩
  | c => exact absurd rfl hlane

/-- Between two questions a wait looks at the clock and sleeps. -/
theorem asksAtEnd_pause {cause : AcceptanceError} {waited : Duration}
    {rest : Attempt (Timed (Clients κ)) AcceptanceError Unit}
    {handler : Proc.Handler (Timed (Clients κ)) (Timeline σ)}
    (hrest : ∀ later, rest.AsksAtEnd handler later) (t : Timeline σ) :
    (do
      let next ← Attempt.ofChecked (waited.plus settings.interval)
      if settings.timeout.nanos < next.nanos then .fail cause
      else
        sleep settings.interval
        rest : Attempt (Timed (Clients κ)) AcceptanceError Unit).AsksAtEnd handler t := by
  refine .bind fun next counted => ?_
  split
  · exact .fail cause
  · exact .bind fun _ woken => hrest woken

/-- **A wait asks at its end**, by induction on the questions that are left. -/
theorem asksAtEnd_pollFrom (hlane : lane ≠ .c) (begun : Duration) (lastError : Option ApiError)
    (budget : Nat) (t : Timeline σ) :
    (pollFrom (nodeStatus client lane) tx lane settings begun lastError budget).AsksAtEnd
      (Timeline.handlerOn round answer) t := by
  induction budget generalizing lastError t with
  | zero => exact fun _ _ hrun => by cases hrun
  | succ budget ih =>
    intro value t' hrun
    rw [pollFrom] at hrun ⊢
    obtain ⟨state, later, hstate, hrest, hminutes⟩ := Attempt.exists_of_bind_ok hrun
    obtain ⟨exchange, hasked, hnow⟩ := minutes_nodeStatus hlane t
    rw [Attempt.minutes_outcome, hasked] at hminutes
    rw [Attempt.runOn_outcome] at hstate
    obtain ⟨-, rfl⟩ := Prod.mk.inj hstate
    cases hverdict : verdict tx lane state with
    | settled =>
      rw [hverdict] at hrest hminutes
      obtain ⟨-, rfl⟩ := Prod.mk.inj hrest
      exact ⟨[], _, hminutes, hnow.symm⟩
    | lost cause =>
      rw [hverdict] at hrest
      cases hrest
    | broken cause =>
      rw [hverdict] at hrest
      cases hrest
    | undecided cause =>
      rw [hverdict] at hrest hminutes
      -- the clock, a pause and the next question follow
      obtain ⟨before, last, hbefore, hlast⟩ := Attempt.AsksAtEnd.bind
        (fun _ looked => asksAtEnd_pause (ih _) looked) _ _ hrest
      exact ⟨_ :: before, last, hminutes.trans (congrArg (_ :: ·) hbefore), hlast⟩

/-- **How a wait that ends well is on the minutes**: the last question was the
first one to which the reply was that the transaction is accepted, and it was
asked when the wait ended. -/
theorem minutes_await (hlane : lane ≠ .c)
    (h : (await (nodeStatus client lane) tx lane settings).runOn
      (Timeline.handlerOn round answer) t = (.ok (), t')) :
    ∃ before last, (await (nodeStatus client lane) tx lane settings).minutes
        (Timeline.handlerOn round answer) t = before ++ [last]
      ∧ (∀ earlier ∈ before, ¬ earlier.exchange.IsAccepted)
      ∧ last.exchange.question = (client, statusCall tx lane) ∧ last.exchange.IsAccepted
      ∧ last.time = t'.now := by
  have hends : (await (nodeStatus client lane) tx lane settings).AsksAtEnd
      (Timeline.handlerOn round answer) t :=
    .bind fun begun looked => asksAtEnd_pollFrom hlane begun none maxPolls looked
  obtain ⟨before, last, hminutes, hlast⟩ := hends () t' h
  have htalk := Attempt.talk_minutes (Timeline.handlerOn round answer)
    (await (nodeStatus client lane) tx lane settings) t
  rw [h, hminutes, List.map_append] at htalk
  obtain ⟨-, front, accepted, hsame, hopen, hquestion, haccepted⟩ | ⟨_, hnever, -⟩ :=
    talk_await hlane htalk
  · obtain ⟨hfront, hone⟩ := List.append_inj' hsame rfl
    obtain rfl := List.singleton_inj.1 hone
    refine ⟨before, last, hminutes, fun earlier hmem => ?_, hquestion, haccepted, hlast⟩
    exact (hopen _ (hfront ▸ List.mem_map_of_mem hmem)).2.not_isAccepted
  · cases hnever

/-- **A wait that fails** had no reply that the transaction is accepted. -/
theorem not_isAccepted_of_error (hlane : lane ≠ .c) {cause : Failure AcceptanceError}
    (h : (await (nodeStatus client lane) tx lane settings).runOn
      (Timeline.handlerOn round answer) t = (.error cause, t')) :
    ∀ asked ∈ (await (nodeStatus client lane) tx lane settings).minutes
      (Timeline.handlerOn round answer) t, ¬ asked.exchange.IsAccepted := by
  intro asked hmem
  have htalk := Attempt.talk_minutes (Timeline.handlerOn round answer)
    (await (nodeStatus client lane) tx lane settings) t
  rw [h] at htalk
  have hmem : asked.exchange ∈ _ := List.mem_map_of_mem hmem
  obtain ⟨hnever, -⟩ | ⟨_, -, before, last, hlog, hopen, hlast⟩ := talk_await hlane htalk
  · cases hnever
  · rw [hlog] at hmem
    rcases List.mem_append.1 hmem with hmem | hmem
    · exact (hopen _ hmem).2.not_isAccepted
    · obtain rfl | ⟨only, rfl, -, -, hnot⟩ := hlast
      · exact absurd hmem List.not_mem_nil
      · rw [List.mem_singleton.1 hmem]
        exact hnot

end Acceptance

end LedgerNet
