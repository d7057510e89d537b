import LedgerNet.Staking.Funder
import LedgerNet.Staking.Participant

/-!
# The roster

The participants of a staking run by id, and the funder once there is one.
The roster is a view of the fleet: a node has to be running to be entered,
and forgetting it leaves it running.
-/

namespace LedgerNet

/-- **The participants of a staking run.** -/
structure Roster (κ : Type) where
  settings : StakingSettings
  funder? : Option (Funder κ)
  /-- In the order of their ids, at most one for each. -/
  participants : List (Participant κ)

/-- A program that changes a roster. -/
abbrev RosterAction (κ : Type) := Action (Roster κ) (Timed (Clients κ)) StakingError

namespace Roster

variable {κ : Type}

def empty (settings : StakingSettings) : Roster κ := ⟨settings, none, []⟩

/-- The participant with a given id, or that there is none. -/
def participant (roster : Roster κ) (id : String) : Except StakingError (Participant κ) :=
  match roster.participants.find? (·.id == id) with
  | some node => .ok node
  | none => .error (.unknownNode id)

/-- The funder, or that there is none. -/
def funder (roster : Roster κ) : Except StakingError (Funder κ) :=
  match roster.funder? with
  | some funder => .ok funder
  | none => .error .missingFunder

/-- A participant in its place among others, in place of one with its id. -/
def insertSorted (node : Participant κ) : List (Participant κ) → List (Participant κ)
  | [] => [node]
  | other :: rest =>
    if node.id < other.id then node :: other :: rest
    else if node.id = other.id then node :: rest
    else other :: insertSorted node rest

/-- The roster with a participant more. -/
def insert (roster : Roster κ) (node : Participant κ) : Roster κ :=
  { roster with participants := insertSorted node roster.participants }

/-- **Forgets a participant**, and says whether there was one. -/
def forget (roster : Roster κ) (id : String) : Option (Participant κ) × Roster κ :=
  (roster.participants.find? (·.id == id),
    { roster with participants := roster.participants.filter (·.id != id) })

/-- **Enters a running node.** -/
def enroll (fleet : Fleet κ) (id : String) (user : User) : RosterAction κ (Participant κ) := do
  let tracked ← Action.ofExcept ((fleet.tracked id).mapError .fleet)
  let node ← Action.lift (Participant.enroll tracked user (← Action.state).settings)
  Action.change (·.insert node)
  return node

/-- **Makes a running node the funder.** -/
def appointFunder (fleet : Fleet κ) (id : String) (user : User) (privateKey : String) :
    RosterAction κ (Funder κ) := do
  let tracked ← Action.ofExcept ((fleet.tracked id).mapError .fleet)
  let funder ← Action.lift
    (Funder.importFunds id tracked.client user privateKey (← Action.state).settings)
  Action.change fun roster => { roster with funder? := some funder }
  return funder

/-- **Enters every node of a definition**, each with a user of its name. -/
def enrollDefined (fleet : Fleet κ) (d : Definition) : RosterAction κ Unit :=
  d.nodes.forM fun node => do
    let _ ← enroll fleet node.id ⟨node.id, Conventions.userPassword⟩

end Roster

end LedgerNet
