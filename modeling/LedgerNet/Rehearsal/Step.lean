import LedgerNet.Json.Access
import LedgerNet.Report

/-!
# Rehearsals step by step

A rehearsal is a list of steps, each planned in JSON and told in JSON. The
steps follow each other on one state. A step that fails tells of its error
and the next one goes on from what it left; a step that crashes is the
last.
-/

namespace LedgerNet

open Json Report

/-- **What is told of a step.** -/
structure Telling where
  members : Members
  crashed : Bool

/-- An outcome is told together with what is told of every step; a crash
leaves nothing else to tell. -/
def Telling.of {ε : Type} [HasFault ε] (outcome : Outcome ε Members) (rest : Members) : Telling :=
  match outcome with
  | .ok members => ⟨members ++ rest, false⟩
  | .error (.error cause) => ⟨faultMembers cause ++ rest, false⟩
  | .error (.crash cause) => ⟨crashMembers cause, true⟩

/-- **A way to take steps** on a state. -/
abbrev Stepper (σ : Type) := σ → Json → Reading (Telling × σ)

/-- **Takes steps one after the other**, the last one being the first that
crashes. -/
def Stepper.tellAll {σ : Type} (step : Stepper σ) : σ → List Json → Reading (List Json)
  | _, [] => return []
  | state, plan :: rest => do
    let (telling, state) ← step state plan
    if telling.crashed then return [obj telling.members]
    else return obj telling.members :: (← tellAll step state rest)

/-- The steps of a plan. -/
def Stepper.tell {σ : Type} (step : Stepper σ) (start : σ) (plan : Json) : Reading Json := do
  return .array (← step.tellAll start (← plan.need "steps" asItems))

end LedgerNet
