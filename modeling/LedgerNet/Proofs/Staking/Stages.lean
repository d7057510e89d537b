import LedgerNet.Proofs.Acceptance.Conversation
import LedgerNet.Staking.Error
import Mathlib.Data.List.Forall2

/-!
# Stages

What a participant does is a row of stages: a transaction is handed in and
seen to be accepted, a balance is compared, a validator is looked up. This
module says what a conversation with a node is when a stage is passed and
when it fails, and what it is for a row of stages (`Course`): every stage
that is begun comes after all the ones before it have passed, and nothing is
asked once a stage has failed.

All else follows from that. The transactions that are handed in are a
beginning of those of the stages, and whatever is handed in comes after the
last reply on the transaction before said that it was accepted.
-/

namespace LedgerNet

/-! ## Calls and replies -/

namespace Call

/-- Whether a call hands in a transaction. -/
def handsIn : Call → Bool
  | xSend _ _ _ _ | xSendMultiple _ _ | xExport _ _ _ | xImport _ _ _ | pImport _ _ _
  | pExport _ _ _ | addValidator _ _ _ | addDelegator _ _ | cImport _ _ _ => true
  | _ => false

/-- Whether a call asks where a transaction stands. -/
def asksState : Call → Bool
  | xStatus _ | pStatus _ => true
  | _ => false

/-- The id of the transaction that a call handed in. -/
def tx? : (call : Call) → call.Result → Option TxId
  | xSend _ _ _ _, tx | xSendMultiple _ _, tx | xExport _ _ _, tx | xImport _ _ _, tx
  | pImport _ _ _, tx | pExport _ _ _, tx | addValidator _ _ _, tx | addDelegator _ _, tx
  | cImport _ _ _, tx => some tx
  | _, _ => none

/-- The amount that a call found at an address. -/
def balance? : (call : Call) → call.Result → Option Nat
  | xBalance _ _, amount | pBalance _, amount => some amount.toNat
  | cBalance _, amount => some amount
  | _, _ => none

/-- The identities that a call found among the validators. -/
def validatorIds? : (call : Call) → call.Result → Option (List String)
  | validators, found => some (found.map Validator.nodeId)
  | _, _ => none

/-- The question for a balance on a lane. -/
def ofBalance (lane : Lane) (address asset : String) : Call :=
  match lane with
  | .x => xBalance address asset
  | .p => pBalance address
  | .c => cBalance address

/-- The question for a balance hands in nothing and asks for no
transaction. -/
theorem ofBalance_spec (lane : Lane) (address asset : String) :
    (ofBalance lane address asset).handsIn = false
      ∧ (ofBalance lane address asset).asksState = false := by
  cases lane <;> exact ⟨rfl, rfl⟩

end Call

namespace Exchange

variable {κ : Type} (exchange : Exchange (Clients κ))

/-- Whether a transaction is handed in. -/
def handsIn : Bool := exchange.call.handsIn

/-- What a read of the result says, if the call has one. -/
def read? {α : Type} (read : (call : Call) → call.Result → Option α) : Option α :=
  match exchange.reply with
  | .ok result => read exchange.question.2 result
  | .error _ => none

/-- The id of the transaction that was handed in. -/
def tx? : Option TxId := exchange.read? Call.tx?

/-- The balance that was reported. -/
def balance? : Option Nat := exchange.read? Call.balance?

/-- The validators that were reported, by identity. -/
def validatorIds? : Option (List String) := exchange.read? Call.validatorIds?

end Exchange

/-! ## One stage -/

/-- **A stage of what a participant does.** -/
inductive Stage where
  /-- A call hands in a transaction, which is accepted on a lane. -/
  | transaction (lane : Lane) (call : Call)
  /-- An address holds an amount of an asset on a lane. -/
  | holding (lane : Lane) (address asset : String) (amount : Nat)
  /-- A node is among the validators. -/
  | listing (nodeId : String)

namespace Stage

variable {κ : Type}

/-- The call that begins a stage. -/
def call : Stage → Call
  | transaction _ call => call
  | holding lane address asset _ => .ofBalance lane address asset
  | listing _ => .validators

/-- The transaction of a stage is handed in by its call. -/
def Proper : Stage → Prop
  | transaction _ call => call.handsIn = true
  | _ => True

/-- **The conversation of a stage that passes.** -/
def Passed (client : κ) : Stage → Exchange (Clients κ) → List (Exchange (Clients κ)) → Prop
  | transaction lane _, first, rest =>
    ∃ tx, first.tx? = some tx ∧ Acceptance.SeenAccepted client lane tx rest
  | holding _ _ _ amount, first, rest => first.balance? = some amount ∧ rest = []
  | listing nodeId, first, rest =>
    (∃ ids, first.validatorIds? = some ids ∧ nodeId ∈ ids) ∧ rest = []

/-- **The conversation of a stage that fails.** -/
def Failed (client : κ) : Stage → Exchange (Clients κ) → List (Exchange (Clients κ)) → Prop
  | transaction lane _, first, rest =>
    (first.tx? = none ∧ rest = [])
      ∨ ∃ tx, first.tx? = some tx ∧ Acceptance.GivenUp client lane tx rest
  | holding _ _ _ amount, first, rest => first.balance? ≠ some amount ∧ rest = []
  | listing nodeId, first, rest =>
    (∀ ids, first.validatorIds? = some ids → nodeId ∉ ids) ∧ rest = []

variable {client : κ} {stage : Stage} {first : Exchange (Clients κ)}
  {rest : List (Exchange (Clients κ))}

theorem handsIn_statusCall (tx : TxId) (lane : Lane) :
    (Acceptance.statusCall tx lane).handsIn = false
      ∧ (Acceptance.statusCall tx lane).asksState = true := by
  cases lane <;> exact ⟨rfl, rfl⟩

/-- After its first call a stage only asks where a transaction stands. -/
theorem asks (h : stage.Passed client first rest ∨ stage.Failed client first rest) :
    ∀ exchange ∈ rest, exchange.question.1 = client ∧ exchange.handsIn = false := by
  have hasks : ∀ {tx lane} {exchange : Exchange (Clients κ)},
      exchange.question = (client, Acceptance.statusCall tx lane) →
      exchange.question.1 = client ∧ exchange.handsIn = false := by
    intro tx lane exchange hquestion
    unfold Exchange.handsIn Exchange.call
    rw [hquestion]
    exact ⟨rfl, (handsIn_statusCall tx lane).1⟩
  have hnil : rest = [] → ∀ exchange ∈ rest,
      exchange.question.1 = client ∧ exchange.handsIn = false := by
    rintro rfl exchange hmem
    exact absurd hmem List.not_mem_nil
  cases stage with
  | transaction lane call =>
    obtain ⟨tx, -, hseen⟩ | ⟨-, hrest⟩ | ⟨tx, -, hgiven⟩ := h
    · exact fun exchange hmem => hasks (hseen.asks exchange hmem)
    · exact hnil hrest
    · exact fun exchange hmem => hasks (hgiven.asks exchange hmem)
  | holding lane address asset amount => exact hnil (h.elim And.right And.right)
  | listing nodeId => exact hnil (h.elim And.right And.right)

/-- A stage hands in a transaction once, if that is what begins it. -/
theorem filter_handsIn (hquestion : first.question = (client, stage.call))
    (h : stage.Passed client first rest ∨ stage.Failed client first rest) :
    ((first :: rest).filter Exchange.handsIn).map Exchange.call
      = [stage.call].filter Call.handsIn := by
  have hrest : rest.filter Exchange.handsIn = [] := by
    rw [List.filter_eq_nil_iff]
    intro exchange hmem
    rw [(asks h exchange hmem).2]
    exact Bool.false_ne_true
  have hcall : first.call = stage.call := congrArg Prod.snd hquestion
  rw [List.filter_cons, List.filter_cons, hrest, ← hcall, List.filter_nil]
  show (if first.call.handsIn then _ else _ : List _).map _ = _
  split
  · rfl
  · rfl

end Stage

/-! ## A row of stages -/

/-- **What was handed in last is accepted**: after it was handed in, the last
reply to a question for a transaction said that this one is accepted. -/
def Settled {κ : Type} (client : κ) (log : List (Exchange (Clients κ))) : Prop :=
  ∀ before handed after, log = before ++ handed :: after → handed.handsIn = true →
    (∀ exchange ∈ after, exchange.handsIn = false) →
    ∃ tx lane asked last rest, handed.tx? = some tx ∧ after = asked ++ last :: rest
      ∧ last.question = (client, Acceptance.statusCall tx lane) ∧ last.IsAccepted
      ∧ ∀ exchange ∈ rest, exchange.call.asksState = false

/-- **The conversation of a row of stages**, and how it ends: well if every
stage passed, and otherwise with the first one that fails, or where a
computation crashed between two of them. -/
inductive Course {κ : Type} (client : κ) :
    List Stage → List (Exchange (Clients κ)) → Outcome StakingError Unit → Prop where
  | finished : Course client [] [] (.ok ())
  | passed {stage : Stage} {stages : List Stage} {first : Exchange (Clients κ)}
    {rest log : List (Exchange (Clients κ))} {outcome : Outcome StakingError Unit}
    (hquestion : first.question = (client, stage.call)) (hpassed : stage.Passed client first rest)
    (hcourse : Course client stages log outcome) :
    Course client (stage :: stages) (first :: rest ++ log) outcome
  | failed {stage : Stage} {stages : List Stage} {first : Exchange (Clients κ)}
    {rest : List (Exchange (Clients κ))} (cause : Failure StakingError)
    (hquestion : first.question = (client, stage.call))
    (hfailed : stage.Failed client first rest) :
    Course client (stage :: stages) (first :: rest) (.error cause)
  | crashed (stages : List Stage) (cause : Crash) :
    Course client stages [] (Outcome.crashed cause)

namespace Course

variable {κ : Type} {client : κ} {stages more : List Stage}
  {log after : List (Exchange (Clients κ))} {outcome : Outcome StakingError Unit}

/-- **One row of stages after another**, if the first one passes. -/
theorem append (h : Course client stages log (.ok ())) (hafter : Course client more after outcome) :
    Course client (stages ++ more) (log ++ after) outcome := by
  generalize hok : (.ok () : Outcome StakingError Unit) = ended at h
  induction h with
  | finished => exact hafter
  | passed hquestion hpassed hcourse ih =>
    rw [List.append_assoc]
    exact passed hquestion hpassed (ih hok)
  | failed cause hquestion hfailed => cases hok
  | crashed stages cause => cases hok

/-- A row of stages that does not pass is not gone on with. -/
theorem append_of_error {cause : Failure StakingError} (h : Course client stages log (.error cause))
    (more : List Stage) : Course client (stages ++ more) log (.error cause) := by
  generalize herror : (.error cause : Outcome StakingError Unit) = ended at h
  induction h with
  | finished => cases herror
  | passed hquestion hpassed hcourse ih => exact passed hquestion hpassed (ih herror)
  | failed other hquestion hfailed =>
    obtain rfl := Except.error.inj herror
    exact failed cause hquestion hfailed
  | crashed stages other =>
    obtain rfl := Except.error.inj herror
    exact crashed _ other

/-- Every call goes to the one node. -/
theorem client_eq (h : Course client stages log outcome) :
    ∀ exchange ∈ log, exchange.question.1 = client := by
  have hstage : ∀ {stage : Stage} {first rest}, first.question = (client, stage.call) →
      (stage.Passed client first rest ∨ stage.Failed client first rest) →
      ∀ exchange ∈ first :: rest, exchange.question.1 = client := by
    intro stage first rest hquestion hends
    refine List.forall_mem_cons.2 ⟨congrArg Prod.fst hquestion, ?_⟩
    exact fun exchange hmem => (Stage.asks hends exchange hmem).1
  induction h with
  | finished => exact nofun
  | passed hquestion hpassed hcourse ih =>
    intro exchange hmem
    rcases List.mem_append.1 hmem with hmem | hmem
    · exact hstage hquestion (Or.inl hpassed) exchange hmem
    · exact ih exchange hmem
  | failed cause hquestion hfailed => exact hstage hquestion (Or.inr hfailed)
  | crashed stages cause => exact nofun

theorem filter_map_cons (stage : Stage) (stages : List Stage) :
    ((stage :: stages).map Stage.call).filter Call.handsIn
      = [stage.call].filter Call.handsIn ++ (stages.map Stage.call).filter Call.handsIn :=
  List.filter_append [stage.call] (stages.map Stage.call)

/-- **The transactions that are handed in** are those of the stages, in
their order and up to some point. -/
theorem handedIn (h : Course client stages log outcome) :
    (log.filter Exchange.handsIn).map Exchange.call
      <+: (stages.map Stage.call).filter Call.handsIn := by
  induction h with
  | finished => exact List.prefix_rfl
  | passed hquestion hpassed hcourse ih =>
    rw [List.filter_append, List.map_append, Stage.filter_handsIn hquestion (Or.inl hpassed),
      filter_map_cons]
    exact (List.prefix_append_right_inj _).2 ih
  | failed cause hquestion hfailed =>
    rw [Stage.filter_handsIn hquestion (Or.inr hfailed), filter_map_cons]
    exact List.prefix_append _ _
  | crashed stages cause => exact List.nil_prefix

/-- **A transaction splits the course**: it is handed in when the stages
before it have all passed. -/
theorem split_handsIn (h : Course client stages log outcome) {before : List (Exchange (Clients κ))}
    {handed : Exchange (Clients κ)} (hsplit : log = before ++ handed :: after)
    (hhands : handed.handsIn = true) :
    ∃ passed stage left, stages = passed ++ stage :: left
      ∧ handed.question = (client, stage.call) ∧ Course client passed before (.ok ())
      ∧ Course client (stage :: left) (handed :: after) outcome := by
  have hfirst : ∀ {rest : List (Exchange (Clients κ))},
      (∀ exchange ∈ rest, exchange.question.1 = client ∧ exchange.handsIn = false) →
      handed ∉ rest := by
    intro rest hrest hmem
    rw [(hrest handed hmem).2] at hhands
    exact Bool.false_ne_true hhands
  induction h generalizing before with
  | finished => simp at hsplit
  | @passed stage stages first rest log outcome hquestion hpassed hcourse ih =>
    have hrest := hfirst (Stage.asks (Or.inl hpassed))
    cases before with
    | nil =>
      obtain ⟨rfl, rfl⟩ := List.cons.inj hsplit
      exact ⟨[], stage, stages, rfl, hquestion, finished, passed hquestion hpassed hcourse⟩
    | cons other before =>
      obtain ⟨rfl, htail⟩ := List.cons.inj hsplit
      -- the transaction is not among the questions of this stage
      rcases List.append_eq_append_iff.1 htail with ⟨later, rfl, hlog⟩ | ⟨later, hlater, hlog⟩
      · obtain ⟨gone, next, left, rfl, hnext, hgone, hleft⟩ := ih hlog
        exact ⟨stage :: gone, next, left, rfl, hnext, passed hquestion hpassed hgone, hleft⟩
      · cases later with
        | nil =>
          obtain ⟨gone, next, left, rfl, hnext, hgone, hleft⟩ :=
            ih (show log = [] ++ handed :: after from hlog.symm)
          rw [List.append_nil] at hlater
          refine ⟨stage :: gone, next, left, rfl, hnext, ?_, hleft⟩
          rw [← hlater, ← List.append_nil (first :: rest)]
          exact passed hquestion hpassed hgone
        | cons found later =>
          obtain ⟨rfl, -⟩ := List.cons.inj hlog
          exact absurd (by simp [hlater]) hrest
  | @failed stage stages first rest cause hquestion hfailed =>
    cases before with
    | nil =>
      obtain ⟨rfl, rfl⟩ := List.cons.inj hsplit
      exact ⟨[], stage, stages, rfl, hquestion, finished, failed cause hquestion hfailed⟩
    | cons other before =>
      obtain ⟨-, htail⟩ := List.cons.inj hsplit
      exact absurd (htail ▸ List.mem_append_right before List.mem_cons_self)
        (hfirst (Stage.asks (Or.inr hfailed)))
  | crashed stages cause => simp at hsplit

/-- Where no transaction is handed in, none is asked for. -/
theorem not_asksState (h : Course client stages log outcome)
    (hproper : ∀ stage ∈ stages, stage.Proper)
    (hnone : ∀ exchange ∈ log, exchange.handsIn = false) :
    ∀ exchange ∈ log, exchange.call.asksState = false := by
  have hstage : ∀ {stage : Stage} {first : Exchange (Clients κ)} {rest}, stage.Proper →
      first.question = (client, stage.call) →
      (stage.Passed client first rest ∨ stage.Failed client first rest) →
      first.handsIn = false → ∀ exchange ∈ first :: rest, exchange.call.asksState = false := by
    intro stage first rest hstage hquestion hends hfirst
    have hcall : first.call = stage.call := congrArg Prod.snd hquestion
    unfold Exchange.handsIn at hfirst
    cases stage with
    | transaction lane call =>
      rw [hcall, show Stage.call (.transaction lane call) = call from rfl, hstage] at hfirst
      exact absurd hfirst.symm Bool.false_ne_true
    | holding lane address asset amount =>
      obtain rfl : rest = [] := hends.elim And.right And.right
      rw [List.forall_mem_singleton, hcall]
      exact (Call.ofBalance_spec lane address asset).2
    | listing nodeId =>
      obtain rfl : rest = [] := hends.elim And.right And.right
      rw [List.forall_mem_singleton, hcall]
      rfl
  induction h with
  | finished => exact nofun
  | passed hquestion hpassed hcourse ih =>
    obtain ⟨hstageproper, hproper⟩ := List.forall_mem_cons.1 hproper
    have hfirst := hnone _ (List.mem_append_left _ List.mem_cons_self)
    intro exchange hmem
    rcases List.mem_append.1 hmem with hmem | hmem
    · exact hstage hstageproper hquestion (Or.inl hpassed) hfirst exchange hmem
    · exact ih hproper (fun later hlater => hnone later (List.mem_append_right _ hlater)) exchange
        hmem
  | failed cause hquestion hfailed =>
    obtain ⟨hstageproper, -⟩ := List.forall_mem_cons.1 hproper
    exact hstage hstageproper hquestion (Or.inr hfailed) (hnone _ List.mem_cons_self)
  | crashed stages cause => exact nofun

/-- **When all stages have passed, what was handed in last is accepted.** -/
theorem settled (h : Course client stages log (.ok ())) (hproper : ∀ stage ∈ stages, stage.Proper) :
    Settled client log := by
  intro before handed after hsplit hhands hnone
  obtain ⟨gone, stage, left, rfl, hquestion, -, hcourse⟩ := h.split_handsIn hsplit hhands
  have hcall : handed.call = stage.call := congrArg Prod.snd hquestion
  have hleft : ∀ stage ∈ left, stage.Proper := fun later hlater =>
    hproper later (List.mem_append_right _ (List.mem_cons_of_mem _ hlater))
  unfold Exchange.handsIn at hhands
  rw [hcall] at hhands
  generalize hlog : handed :: after = log at hcourse
  cases hcourse with
  | passed hfirst hpassed hcourse =>
    obtain ⟨rfl, rfl⟩ := List.cons.inj hlog
    cases stage with
    | transaction lane call =>
      obtain ⟨tx, htx, asked, last, rfl, -, hlast, haccepted⟩ := hpassed
      refine ⟨tx, lane, asked, last, _, htx, List.append_assoc _ _ _, hlast, haccepted, ?_⟩
      exact hcourse.not_asksState hleft fun exchange hmem =>
        hnone exchange (List.mem_append_right _ hmem)
    | holding lane address asset amount =>
      exact absurd ((Call.ofBalance_spec lane address asset).1.symm.trans hhands)
        Bool.false_ne_true
    | listing nodeId => exact absurd hhands Bool.false_ne_true

/-- The first of several stages that all pass. -/
theorem of_cons_ok {stage : Stage} (h : Course client (stage :: stages) log (.ok ())) :
    ∃ first rest after, log = first :: rest ++ after ∧ first.question = (client, stage.call)
      ∧ stage.Passed client first rest ∧ Course client stages after (.ok ()) := by
  generalize hok : (.ok () : Outcome StakingError Unit) = ended at h
  cases h with
  | passed hquestion hpassed hcourse =>
    exact ⟨_, _, _, rfl, hquestion, hpassed, hok ▸ hcourse⟩
  | failed cause hquestion hfailed => cases hok
  | crashed stages cause => cases hok

/-- **A row of stages that ends well has passed every one of them**: the
conversation falls into one part for each stage. -/
theorem parts_of_ok (h : Course client stages log (.ok ())) :
    ∃ parts, log = parts.flatten ∧ List.Forall₂ (fun stage part => ∃ first rest,
      part = first :: rest ∧ first.question = (client, Stage.call stage)
        ∧ stage.Passed client first rest) stages parts := by
  induction stages generalizing log with
  | nil =>
    generalize hok : (.ok () : Outcome StakingError Unit) = ended at h
    cases h with
    | finished => exact ⟨[], rfl, .nil⟩
    | crashed stages cause => cases hok
  | cons stage stages ih =>
    obtain ⟨first, rest, after, rfl, hquestion, hpassed, hcourse⟩ := h.of_cons_ok
    obtain ⟨parts, rfl, hparts⟩ := ih hcourse
    exact ⟨(first :: rest) :: parts, rfl, .cons ⟨first, rest, rfl, hquestion, hpassed⟩ hparts⟩

end Course

end LedgerNet
