import LedgerNet.Program.Failure

/-!
# The first failure in order

Several things are done, all of them to their end, and one outcome is
reported for all. Which failure that is must not depend on which of them came
about first, so it is the first one in an order that was fixed beforehand, the
order of a list. `InOrder` says so without saying how it is found.
-/

namespace LedgerNet

variable {ε α : Type} {passes : α → Prop} {fails : α → ε → Prop} {l : List α}
  {outcome : Outcome ε Unit}

/-- The outcome that is reported if a cause was found, or none. -/
def Outcome.reported : Option ε → Outcome ε Unit
  | some cause => Outcome.failed cause
  | none => .ok ()

/-- **What is reported of the members of a list**: the cause for which the
first member fails that does not pass, if there is one. -/
inductive InOrder (passes : α → Prop) (fails : α → ε → Prop) (l : List α) :
    Outcome ε Unit → Prop where
  | passed (all : ∀ a ∈ l, passes a) : InOrder passes fails l (.ok ())
  | failed (before : List α) (a : α) (after : List α) (split : l = before ++ a :: after)
    (earlier : ∀ b ∈ before, passes b) (cause : ε) (cause_eq : fails a cause) :
    InOrder passes fails l (Outcome.failed cause)

namespace InOrder

/-- Nothing fails if and only if all pass. -/
theorem eq_ok_iff (h : InOrder passes fails l outcome)
    (hfails : ∀ a cause, fails a cause → ¬ passes a) : outcome = .ok () ↔ ∀ a ∈ l, passes a := by
  cases h with
  | passed all => exact ⟨fun _ => all, fun _ => rfl⟩
  | failed before a after split earlier cause cause_eq =>
    refine ⟨nofun, fun hall => absurd (hall a ?_) (hfails a cause cause_eq)⟩
    rw [split]
    exact List.mem_append_right before List.mem_cons_self

/-- The first member is reported if it does not pass. -/
theorem of_head {a : α} (h : InOrder passes fails (a :: l) outcome) (ha : ¬ passes a) :
    ∃ cause, fails a cause ∧ outcome = Outcome.failed cause := by
  cases h with
  | passed all => exact absurd (all a List.mem_cons_self) ha
  | failed before b after split earlier cause cause_eq =>
    cases before with
    | nil =>
      obtain ⟨rfl, -⟩ := List.cons.inj split
      exact ⟨cause, cause_eq, rfl⟩
    | cons first before =>
      obtain ⟨rfl, -⟩ := List.cons.inj split
      exact absurd (earlier a List.mem_cons_self) ha

/-- **A search from the front** finds what is to be reported. -/
theorem of_findSome? {failure? : α → Option ε}
    (hcases : ∀ a, (passes a ∧ failure? a = none)
      ∨ ∃ cause, fails a cause ∧ failure? a = some cause)
    (l : List α) : InOrder passes fails l (Outcome.reported (l.findSome? failure?)) := by
  have hpasses : ∀ a, failure? a = none → passes a := by
    intro a hnone
    rcases hcases a with ⟨hpass, -⟩ | ⟨cause, -, hsome⟩
    · exact hpass
    · cases hnone.symm.trans hsome
  cases hfound : l.findSome? failure? with
  | none => exact .passed fun a hmem => hpasses a (List.findSome?_eq_none_iff.1 hfound a hmem)
  | some cause =>
    obtain ⟨before, a, after, rfl, hsome, hearlier⟩ := List.findSome?_eq_some_iff.1 hfound
    refine .failed before a after rfl (fun b hmem => hpasses b (hearlier b hmem)) cause ?_
    rcases hcases a with ⟨-, hnone⟩ | ⟨other, hfails, hother⟩
    · cases hnone.symm.trans hsome
    · rwa [← Option.some.inj (hother.symm.trans hsome)]

end InOrder

end LedgerNet
