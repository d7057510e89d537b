import LedgerNet.Proofs.Program.Conversation

/-!
# The minutes of a run

A conversation says what was asked and what was answered, in order. The
**minutes** of a run say also when: each question stands there with the time
that the clock of the run showed. Without the times they are a conversation of
the program (`Attempt.talk_minutes`), so what is known of its conversations is
known of its minutes, and only the times are left to be found. They are found
along the program, like a conversation: the minutes of a program after another
begin with those of the first one.
-/

namespace LedgerNet

/-- **A question and its answer, and when it was asked.** -/
structure Stamped (Q : Interface.{0}) where
  /-- The time since the start of the run. -/
  time : Duration
  exchange : Exchange Q

variable {Q : Interface.{0}} {σ ε δ α β : Type}

namespace Proc

variable {handler : Handler (Timed Q) (Timeline σ)}

/-- **The minutes of a run**: what was asked, what was answered, and when. -/
def minutes (handler : Handler (Timed Q) (Timeline σ)) : Proc (Timed Q) α → Timeline σ →
    List (Stamped Q)
  | done _, _ => []
  | ask op resume, t =>
    (TimedOp.exchanges op (handler op t).1).map (Stamped.mk t.now)
      ++ (resume (handler op t).1).minutes handler (handler op t).2

/-- The minutes of a program after another are those of both. -/
theorem minutes_bind (p : Proc (Timed Q) α) (next : α → Proc (Timed Q) β) (t : Timeline σ) :
    (p >>= next).minutes handler t
      = p.minutes handler t
        ++ (next (p.run handler t).1).minutes handler (p.run handler t).2 := by
  induction p generalizing t with
  | done value => rfl
  | ask op resume ih =>
    rw [ask_bind, minutes, minutes, ih, List.append_assoc]
    rfl

/-- **Minutes without the times are a conversation** of the program, and the run
ends as that conversation does. -/
theorem talk_minutes (p : Proc (Timed Q) α) (t : Timeline σ) :
    p.Talk ((p.minutes handler t).map Stamped.exchange) (p.run handler t).1 := by
  induction p generalizing t with
  | done value => exact ⟨rfl, rfl⟩
  | ask op resume ih =>
    refine ⟨(handler op t).1, _, ?_, ih _ _⟩
    rw [minutes, List.map_append, List.map_map]
    exact congrArg (· ++ _) (List.map_id _)

end Proc

namespace Attempt

variable {handler : Proc.Handler (Timed Q) (Timeline σ)} {p : Attempt (Timed Q) ε α}
  {next : α → Attempt (Timed Q) ε β} {t t' : Timeline σ} {value : α} {cause : Failure ε}

/-- **The minutes of a run** of a program that may fail. -/
def minutes (handler : Proc.Handler (Timed Q) (Timeline σ)) (p : Attempt (Timed Q) ε α)
    (t : Timeline σ) : List (Stamped Q) :=
  Proc.minutes handler (ExceptT.run p) t

/-- What comes after a program that ended well is asked after it. -/
theorem minutes_bind_ok (h : p.runOn handler t = (.ok value, t')) :
    (p >>= next).minutes handler t = p.minutes handler t ++ (next value).minutes handler t' := by
  unfold minutes
  rw [ExceptT.run_bind, Proc.minutes_bind]
  unfold runOn at h
  rw [h]

/-- Nothing is asked after a program that failed. -/
theorem minutes_bind_error (h : p.runOn handler t = (.error cause, t')) :
    (p >>= next).minutes handler t = p.minutes handler t := by
  unfold minutes
  rw [ExceptT.run_bind, Proc.minutes_bind]
  unfold runOn at h
  rw [h]
  exact List.append_nil _

/-- **A program after another ends well** where both do, one from where the other
ended, and its minutes are those of both. -/
theorem exists_of_bind_ok {value : β} (h : (p >>= next).runOn handler t = (.ok value, t')) :
    ∃ first later, p.runOn handler t = (.ok first, later)
      ∧ (next first).runOn handler later = (.ok value, t')
      ∧ (p >>= next).minutes handler t
        = p.minutes handler t ++ (next first).minutes handler later := by
  rcases hp : p.runOn handler t with ⟨cause | first, later⟩
  · cases (runOn_bind_error hp).symm.trans h
  · exact ⟨first, later, rfl, (runOn_bind_ok hp).symm.trans h, minutes_bind_ok hp⟩

/-- A computation on numbers that has a value asks nothing. -/
theorem minutes_ofChecked_bind {checked : Checked α} (h : checked = .ok value) :
    (ofChecked checked >>= next).minutes handler t = (next value).minutes handler t := by
  subst h
  exact minutes_bind_ok rfl

/-- What comes after a program is asked after it, if it is asked at all. -/
theorem exists_minutes_bind (p : Attempt (Timed Q) ε α) (next : α → Attempt (Timed Q) ε β)
    (t : Timeline σ) : ∃ rest, (p >>= next).minutes handler t = p.minutes handler t ++ rest := by
  rcases hp : p.runOn handler t with ⟨cause | value, later⟩
  · exact ⟨[], (minutes_bind_error hp).trans (List.append_nil _).symm⟩
  · exact ⟨_, minutes_bind_ok hp⟩

/-- **A run asks at its end** if, where it ends well, the last question on its
minutes was asked at the time at which it ended. -/
def AsksAtEnd (handler : Proc.Handler (Timed Q) (Timeline σ)) (p : Attempt (Timed Q) ε α)
    (t : Timeline σ) : Prop :=
  ∀ value t', p.runOn handler t = (.ok value, t') →
    ∃ before last, p.minutes handler t = before ++ [last] ∧ last.time = t'.now

/-- What asks at its end may stand after anything. -/
theorem AsksAtEnd.bind (h : ∀ value later, (next value).AsksAtEnd handler later) :
    (p >>= next).AsksAtEnd handler t := by
  intro value t' hrun
  obtain ⟨first, later, -, hrest, hminutes⟩ := exists_of_bind_ok hrun
  obtain ⟨before, last, hbefore, hlast⟩ := h first later value t' hrest
  exact ⟨p.minutes handler t ++ before, last, by rw [hminutes, hbefore, List.append_assoc], hlast⟩

/-- What fails does not end well. -/
theorem AsksAtEnd.fail (cause : ε) : (fail cause : Attempt (Timed Q) ε α).AsksAtEnd handler t := by
  intro value t' hrun
  cases hrun

/-- What is done to an outcome asks nothing. -/
theorem minutes_mk_bind {f : Outcome ε α → Outcome δ β} :
    (ExceptT.mk (ExceptT.run p >>= fun ended => pure (f ended)) : Attempt (Timed Q) δ β).minutes
      handler t = p.minutes handler t :=
  (Proc.minutes_bind (ExceptT.run p) _ t).trans (List.append_nil _)

@[simp] theorem minutes_wrap (f : ε → δ) : (p.wrap f).minutes handler t = p.minutes handler t :=
  minutes_mk_bind

@[simp] theorem minutes_outcome :
    (p.outcome : Attempt (Timed Q) δ _).minutes handler t = p.minutes handler t :=
  minutes_mk_bind

@[simp] theorem minutes_map (f : α → β) : (f <$> p).minutes handler t = p.minutes handler t := by
  rw [← bind_pure_comp]
  cases h : p.runOn handler t with
  | mk ended t' =>
    cases ended with
    | ok value => rw [minutes_bind_ok h]; exact List.append_nil _
    | error cause => exact minutes_bind_error h

/-- **Minutes without the times are a conversation.** -/
theorem talk_minutes (handler : Proc.Handler (Timed Q) (Timeline σ)) (p : Attempt (Timed Q) ε α)
    (t : Timeline σ) : p.Talk ((p.minutes handler t).map Stamped.exchange) (p.runOn handler t).1 :=
  Proc.talk_minutes (ExceptT.run p) t

/-- A silent program has no minutes. -/
theorem Silent.minutes_eq (h : Silent p) : p.minutes handler t = [] :=
  List.map_eq_nil_iff.1 (h _ _ (talk_minutes handler p t)).1

end Attempt

end LedgerNet
