/-!
# Programs that ask

Starting a network and moving money on it is a conversation: a request goes
out, an answer comes back, and what happens next depends on the answer. A
`Proc` is such a conversation as a value, a tree with a request at each node
and one branch for each answer. Nothing in it runs by itself. A handler
supplies the answers, and two questions that would otherwise be about the
outside world become questions about trees: what a program does *whatever*
it is told, and what it does against one particular ledger.

The tree is finite in depth, so every program comes to an end. Waiting is
bounded by budgets and timeouts, never by hope.

Requests come from an `Interface`, which fixes the type of the answer to
each request. Answers and results are small types; requests may be large,
since one of them hands over whole programs to be run together.
-/

namespace LedgerNet

universe u v

/-- **What may be asked**, and what is answered to each request. -/
structure Interface where
  /-- The requests. -/
  Op : Type u
  /-- The answers to a request. -/
  Reply : Op → Type

/-- **A program** that asks through an interface and ends with a value. -/
inductive Proc (I : Interface.{u}) (α : Type) : Type u where
  /-- The end. -/
  | done (value : α)
  /-- A request, and how to go on for each answer. -/
  | ask (op : I.Op) (resume : I.Reply op → Proc I α)

namespace Proc

variable {I : Interface.{u}} {α β γ : Type}

/-- One program after another; the second one may use how the first one
ended. -/
def bind : Proc I α → (α → Proc I β) → Proc I β
  | done value, next => next value
  | ask op resume, next => ask op fun reply => (resume reply).bind next

instance : Monad (Proc I) where
  pure := done
  bind := bind

/-- The program that asks one thing and answers with the answer. -/
def request (op : I.Op) : Proc I (I.Reply op) := ask op done

@[simp] theorem pure_eq (value : α) : (pure value : Proc I α) = done value := rfl

@[simp] theorem done_bind (value : α) (next : α → Proc I β) : (done value >>= next) = next value :=
  rfl

@[simp] theorem ask_bind (op : I.Op) (resume : I.Reply op → Proc I α) (next : α → Proc I β) :
    (ask op resume >>= next) = ask op fun reply => resume reply >>= next := rfl

@[simp] theorem request_bind (op : I.Op) (next : I.Reply op → Proc I β) :
    (request op >>= next) = ask op next := rfl

theorem bind_done (p : Proc I α) : (p >>= done) = p := by
  induction p with
  | done value => rfl
  | ask op resume ih => simp only [ask_bind, ih]

theorem bind_assoc (p : Proc I α) (f : α → Proc I β) (g : β → Proc I γ) :
    (p >>= f >>= g) = p >>= fun a => f a >>= g := by
  induction p with
  | done value => rfl
  | ask op resume ih => simp only [ask_bind, ih]

instance : LawfulMonad (Proc I) :=
  LawfulMonad.mk' (Proc I)
    (fun p => bind_done p)
    (fun _ _ => rfl)
    (fun p f g => bind_assoc p f g)
    (fun _ _ => rfl)
    (fun _ _ => rfl)
    (fun _ _ => rfl)

/-- **A program over another interface**: each request is replaced by a
program that finds its answer. -/
def interpret {J : Interface.{v}} (answer : (op : I.Op) → Proc J (I.Reply op)) :
    Proc I α → Proc J α
  | done value => done value
  | ask op resume => answer op >>= fun reply => (resume reply).interpret answer

/-! ## Running a program -/

/-- **A handler** answers requests and remembers what it likes. -/
abbrev Handler (I : Interface.{u}) (σ : Type) := (op : I.Op) → σ → I.Reply op × σ

variable {σ : Type}

/-- **Running a program** against a handler, from a given memory. -/
def run (handler : Handler I σ) : Proc I α → σ → α × σ
  | done value, s => (value, s)
  | ask op resume, s =>
    let answer := handler op s
    (resume answer.1).run handler answer.2

@[simp] theorem run_done (handler : Handler I σ) (value : α) (s : σ) :
    (done value : Proc I α).run handler s = (value, s) := rfl

@[simp] theorem run_ask (handler : Handler I σ) (op : I.Op) (resume : I.Reply op → Proc I α)
    (s : σ) :
    (ask op resume).run handler s = (resume (handler op s).1).run handler (handler op s).2 := rfl

@[simp] theorem run_bind (handler : Handler I σ) (p : Proc I α) (next : α → Proc I β) (s : σ) :
    (p >>= next).run handler s
      = (next (p.run handler s).1).run handler (p.run handler s).2 := by
  induction p generalizing s with
  | done value => rfl
  | ask op resume ih => simp only [ask_bind, run_ask, ih]

/-! ## Programs inside a program -/

/-- **A program stands inside another** when some answers lead to it, at
least one. -/
inductive Within : Proc I α → Proc I α → Prop where
  | here (op : I.Op) (resume : I.Reply op → Proc I α) (reply : I.Reply op) :
    Within (resume reply) (ask op resume)
  | further {p : Proc I α} (op : I.Op) (resume : I.Reply op → Proc I α) (reply : I.Reply op)
    (inside : Within p (resume reply)) : Within p (ask op resume)

theorem Within.wellFounded : WellFounded (@Within I α) := by
  have below : ∀ p : Proc I α, ∀ q, Within q p → Acc Within q := by
    intro p
    induction p with
    | done value => intro q hq; cases hq
    | ask op resume ih =>
      intro q hq
      cases hq with
      | here _ _ reply => exact Acc.intro _ (ih reply)
      | further _ _ reply inside => exact ih reply q inside
  exact ⟨fun p => Acc.intro p (below p)⟩

end Proc

end LedgerNet
