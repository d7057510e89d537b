import LedgerNet.Acceptance
import LedgerNet.Balance

/-!
# Planned answers to a single question

Waiting for a transaction and checking a balance ask one kind of question
each. Both can be rehearsed without a node: with the states of a transaction
in a row, or with a book of balances.
-/

namespace LedgerNet

/-! ## States in a row -/

/-- The question for the state of a transaction, as an interface. -/
abbrev StatusQuestions : Interface.{0} := ⟨TxId, fun _ => Outcome ApiError AcceptanceState⟩

/-- **States in a row** and how many were taken. When they are used up, the
transaction is pending. -/
structure StatusRow where
  left : List (Outcome ApiError AcceptanceState)
  taken : Nat

namespace StatusRow

/-- Every question takes the next state. -/
def answer : Proc.Handler StatusQuestions StatusRow := fun _ row =>
  match row.left with
  | next :: left => (next, ⟨left, row.taken + 1⟩)
  | [] => (.ok .pending, ⟨[], row.taken + 1⟩)

/-- A transaction whose states stand in a row. -/
def source : StatusSource StatusQuestions := fun tx =>
  ExceptT.mk (Proc.ask (TimedOp.query (Q := StatusQuestions) tx) Proc.done)

end StatusRow

/-! ## A book of balances -/

/-- The question for a balance, as an interface. -/
abbrev BalanceQuestions : Interface.{0} := ⟨String, fun _ => Outcome ApiError Nat⟩

/-- **A book of balances** and the addresses that were asked for, the last
one first. -/
structure BalanceBook where
  balances : List (String × Outcome ApiError Nat)
  asked : List String

namespace BalanceBook

/-- An address that the book does not have is answered with an empty
reply. -/
def answer : Proc.Handler BalanceQuestions BalanceBook := fun address book =>
  (((book.balances.find? (·.1 == address)).map (·.2)).getD
      (Outcome.failed (.emptyReply "getBalance")),
    { book with asked := address :: book.asked })

/-- The balances of a book. -/
def source : BalanceSource BalanceQuestions := fun address =>
  ExceptT.mk (Proc.ask (TimedOp.query (Q := BalanceQuestions) address) Proc.done)

end BalanceBook

end LedgerNet
