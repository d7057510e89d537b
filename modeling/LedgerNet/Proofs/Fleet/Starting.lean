import LedgerNet.Proofs.Fleet.Creating

/-!
# What can become of a network that starts

A network starts in two waves. The bootstrap nodes are created one after the
other, and then the waits for all of them go on together: each wait has a
conversation of its own, and these mix in any order (`Wave`). If all of them
end well the regular nodes are created and waited for one by one. So there
are three ways for a start to go (`Starting`), and only in the last of them
does a regular node start.
-/

namespace LedgerNet

namespace Fleet

variable {κ : Type} {fleet left : Fleet κ} {history : List (NetworkEvent κ)}
  {checkers : List (Checker κ)} {log : List (Exchange (Clients κ))} {attempts : Nat}

/-! ## The wait for all bootstrap nodes -/

/-- **A wait among others.** What is said in it is a part of what is said. -/
def WaitedAmong (attempts : Nat) (log : List (Exchange (Clients κ))) (checker : Checker κ)
    (ended : Outcome ReadinessError Unit) : Prop :=
  ∃ own rest, log.Perm (own ++ rest) ∧ Checker.Waited checker.client attempts own ended

/-- **How the wait for several nodes together can end**: all are ready, or the
wait for one of them has failed. -/
inductive Wave (attempts : Nat) (checkers : List (Checker κ)) (log : List (Exchange (Clients κ))) :
    Outcome FleetError Unit → Prop where
  | ready (all : ∀ checker ∈ checkers, WaitedAmong attempts log checker (.ok ())) :
    Wave attempts checkers log (.ok ())
  | unready {checker : Checker κ} (hmem : checker ∈ checkers) {ended : Failure ReadinessError}
    (failed : WaitedAmong attempts log checker (.error ended)) (cause : FleetError) :
    Wave attempts checkers log (Outcome.failed cause)

/-- Every wait of a wave is one among others. -/
theorem waitedAmong_of_mem
    {talks : List (List (Exchange (Clients κ)) × Outcome ReadinessError Unit)}
    (hsaid : log.Perm (talks.map Prod.fst).flatten) {checker : Checker κ}
    {talk : List (Exchange (Clients κ)) × Outcome ReadinessError Unit} (hmem : talk ∈ talks)
    (h : Checker.Waited checker.client attempts talk.1 talk.2) :
    WaitedAmong attempts log checker talk.2 := by
  obtain ⟨before, after, rfl⟩ := List.append_of_mem hmem
  refine ⟨talk.1, ((before ++ after).map Prod.fst).flatten, hsaid.trans ?_, h⟩
  rw [List.map_append, List.map_cons, List.flatten_append, List.flatten_cons, List.map_append,
    List.flatten_append, ← List.append_assoc, ← List.append_assoc]
  exact List.perm_append_comm.append_right _

/-- **The first failure of a wave** is there if a wait has failed, and if there
is none all waits have ended well. -/
theorem firstWaveFailure?_spec {P : Checker κ → Outcome ReadinessError Unit → Prop}
    {outcomes : List (Outcome ReadinessError Unit)} (h : List.Forall₂ P checkers outcomes) :
    (firstWaveFailure? checkers outcomes = none ∧ ∀ checker ∈ checkers, P checker (.ok ()))
      ∨ ∃ cause, firstWaveFailure? checkers outcomes = some cause
        ∧ ∃ checker ∈ checkers, ∃ ended, P checker (.error ended) := by
  induction h with
  | nil => exact Or.inl ⟨rfl, nofun⟩
  | @cons checker outcome checkers outcomes hfirst _ ih =>
    cases outcome with
    | error ended =>
      refine Or.inr ?_
      cases ended with
      | error cause => exact ⟨_, rfl, checker, List.mem_cons_self, _, hfirst⟩
      | crash cause => exact ⟨_, rfl, checker, List.mem_cons_self, _, hfirst⟩
    | ok value =>
      rcases ih with ⟨hnone, hall⟩ | ⟨cause, hsome, other, hmem, ended, hother⟩
      · exact Or.inl ⟨hnone, List.forall_mem_cons.2 ⟨hfirst, hall⟩⟩
      · exact Or.inr ⟨cause, hsome, other, List.mem_cons_of_mem _ hmem, ended, hother⟩

/-- **What can become of a wave** of nodes of which nothing was known. -/
theorem wave_awaitWave {outcome : Outcome FleetError Unit}
    (hnew : ∀ checker ∈ checkers, checker = Checker.ofNode checker.node checker.client)
    (h : (awaitWave checkers).Unfolds fleet history outcome left) :
    left = fleet ∧ ∃ log, history = log.map .query
      ∧ Wave fleet.settings.bootstrapWave.maxAttempts.toNat checkers log outcome := by
  unfold awaitWave at h
  rw [Action.unfolds_state_bind] at h
  rcases Action.unfolds_bind.1 h with ⟨_, hnever, -⟩ | ⟨_, between, _, rest, rfl, hsaid, hended⟩
  · obtain ⟨-, _, _, -, hok, -⟩ := Action.unfolds_lift_together hnever
    exact absurd hok nofun
  obtain ⟨rfl, log, values, rfl, hok, talks, htalks, rfl, hlog⟩ :=
    Action.unfolds_lift_together hsaid
  obtain rfl := Except.ok.inj hok
  rw [List.map_map, List.forall₂_map_left_iff] at htalks
  have hwaits : List.Forall₂ (WaitedAmong between.settings.bootstrapWave.maxAttempts.toNat log)
      checkers (talks.map Prod.snd) := by
    rw [List.forall₂_map_right_iff, List.forall₂_iff_zip]
    refine ⟨htalks.length_eq, fun {checker talk} hpair => ?_⟩
    obtain ⟨hchecker, htalk⟩ := List.of_mem_zip hpair
    have hwait := List.forall₂_zip htalks hpair
    rw [hnew checker hchecker] at hwait
    exact waitedAmong_of_mem hlog htalk (Checker.talk_awaitReady hwait)
  rcases firstWaveFailure?_spec hwaits with
    ⟨hnone, hall⟩ | ⟨cause, hsome, checker, hmem, ended, hfailed⟩
  · rw [hnone] at hended
    obtain ⟨rfl, rfl, rfl⟩ := Action.unfolds_pure.1 hended
    exact ⟨rfl, log, List.append_nil _, .ready hall⟩
  · rw [hsome] at hended
    obtain ⟨rfl, rfl, rfl⟩ := Action.unfolds_fail.1 hended
    exact ⟨rfl, log, List.append_nil _, .unready hmem hfailed cause⟩

/-! ## Both waves -/

section Starting

variable {d : Definition} {nodes : List NodeConfig}

/-- Of the nodes of the first wave nothing is known when they are created. -/
theorem InTurn.eq_ofNode (h : InTurn d .unchecked nodes fleet history (.ok checkers) left) :
    ∀ checker ∈ checkers, checker = Checker.ofNode checker.node checker.client := by
  induction nodes generalizing fleet history checkers with
  | nil =>
    cases h
    exact nofun
  | cons node rest ih =>
    obtain ⟨checker, others, between, first, later, rfl, rfl, hmade, hothers⟩ := h.of_cons_ok
    obtain ⟨_, _, _, _, -, -, -, -, -, hvalue⟩ := hmade.of_ok
    obtain rfl := Except.ok.inj hvalue
    exact List.forall_mem_cons.2 ⟨rfl, ih hothers⟩

/-- **What can become of a network that starts**: a bootstrap node is not
created, or the wait for the bootstrap nodes fails, or the regular nodes come
in turn. -/
inductive Starting (d : Definition) (fleet : Fleet κ) : List (NetworkEvent κ) →
    Outcome FleetError Unit → Fleet κ → Prop where
  | uncreated {history : List (NetworkEvent κ)} {cause : Failure FleetError} {left : Fleet κ}
    (row : InTurn d .unchecked d.bootstrapNodes fleet history (.error cause) left) :
    Starting d fleet history (.error cause) left
  | unready {first : List (NetworkEvent κ)} {checkers : List (Checker κ)} {left : Fleet κ}
    (row : InTurn d .unchecked d.bootstrapNodes fleet first (.ok checkers) left)
    {log : List (Exchange (Clients κ))} {cause : Failure FleetError}
    (wave : Wave fleet.settings.bootstrapWave.maxAttempts.toNat checkers log (.error cause)) :
    Starting d fleet (first ++ log.map .query) (.error cause) left
  | waved {first rest : List (NetworkEvent κ)} {checkers : List (Checker κ)}
    {between left : Fleet κ}
    (row : InTurn d .unchecked d.bootstrapNodes fleet first (.ok checkers) between)
    {log : List (Exchange (Clients κ))}
    (wave : Wave fleet.settings.bootstrapWave.maxAttempts.toNat checkers log (.ok ()))
    {outcome : Outcome FleetError (List (TrackedNode κ))}
    (others : InTurn d (.awaited fleet.settings.startup.maxAttempts.toNat) d.regularNodes between
      rest outcome left) :
    Starting d fleet (first ++ (log.map .query ++ rest)) (outcome.map fun _ => ()) left

/-- **What can become of a network that starts**, by its program. -/
theorem starting_startNetwork {outcome : Outcome FleetError Unit}
    (h : (startNetwork d).Unfolds fleet history outcome left) :
    Starting d fleet history outcome left := by
  unfold startNetwork at h
  rcases Action.unfolds_bind.1 h with
    ⟨cause, hcreated, rfl⟩ | ⟨checkers, between, first, _, rfl, hcreated, hwaves⟩
  · exact .uncreated (inTurn_createUnchecked hcreated)
  have hrow := inTurn_createUnchecked hcreated
  rcases Action.unfolds_bind.1 hwaves with
    ⟨cause, hawaited, rfl⟩ | ⟨_, _, _, rest, rfl, hawaited, hrest⟩
  · obtain ⟨rfl, log, rfl, hwave⟩ := wave_awaitWave hrow.eq_ofNode hawaited
    rw [hrow.settings_eq] at hwave
    exact .unready hrow hwave
  · obtain ⟨rfl, log, rfl, hwave⟩ := wave_awaitWave hrow.eq_ofNode hawaited
    obtain ⟨ended, hothers, rfl⟩ := inTurn_create hrest
    rw [hrow.settings_eq] at hwave hothers
    exact .waved hrow hwave hothers

end Starting

end Fleet

end LedgerNet
