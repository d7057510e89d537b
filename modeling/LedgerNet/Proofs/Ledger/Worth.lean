import LedgerNet.Proofs.Number.Checked
import LedgerNet.Rehearsal.Ledger
import Mathlib.Data.List.Nodup

/-!
# What a ledger is worth

The worth of a ledger is all that its books hold: the balances of the three
lanes and what is pending between them. A call moves money from one entry to
another, or takes some out, and `Moved` is the account of it: so much was
spent, so much was gained, and the rest is as it was. Accounts of parts add up
to that of the whole (`Moved.trans`), so nothing has to be known about which
entries a call touches, and two of them may well be the same.

The sum of a book is that of its entries. It is the sum over its names because
no name stands twice, which every change of a book keeps (`Ledger.Tidy`).
-/

namespace LedgerNet

namespace Book

variable {ν : Type} {book : Book ν} {name : String}

/-! ## The names of a book -/

theorem mem_names_replace {value : ν} {other : String} {entries : List (String × ν)}
    (h : other ∈ (replace name value entries).map (·.1)) :
    other = name ∨ other ∈ entries.map (·.1) := by
  induction entries with
  | nil => exact Or.inl (List.mem_singleton.1 h)
  | cons entry rest ih =>
    rw [replace] at h
    split at h
    · rcases List.mem_cons.1 h with rfl | hrest
      · exact Or.inl rfl
      · exact Or.inr (List.mem_cons_of_mem _ hrest)
    · rcases List.mem_cons.1 h with rfl | hrest
      · exact Or.inr (List.mem_cons_self)
      · exact (ih hrest).imp_right (List.mem_cons_of_mem _)

/-- What is put into a book does not stand there twice. -/
theorem nodup_put (h : book.names.Nodup) (name : String) (value : ν) :
    (book.put name value).names.Nodup := by
  obtain ⟨entries⟩ := book
  unfold names put at *
  induction entries with
  | nil => exact List.nodup_singleton name
  | cons entry rest ih =>
    obtain ⟨hentry, hrest⟩ := List.nodup_cons.1 h
    obtain ⟨other, old⟩ := entry
    by_cases hname : other = name
    · subst hname
      simp only [replace, if_true, List.map_cons]
      exact List.nodup_cons.2 ⟨hentry, hrest⟩
    · simp only [replace, hname, if_false, List.map_cons]
      refine List.nodup_cons.2 ⟨fun hmem => ?_, ih hrest⟩
      rcases mem_names_replace hmem with heq | hmem
      · exact hname heq
      · exact hentry hmem

theorem nodup_erase (h : book.names.Nodup) (name : String) : (book.erase name).names.Nodup :=
  h.sublist (List.filter_sublist.map _)

/-! ## The sum of a book -/

variable (measure : ν → Nat) {default : ν}

theorem measure_getD (h : measure default = 0) (book : Book ν) (name : String) :
    measure (book.getD name default) = ((book.get? name).map measure).getD 0 := by
  unfold getD
  cases book.get? name with
  | none => exact h
  | some value => rfl

/-- **A book holds what it holds under one name**, and more. -/
theorem measure_getD_le_sumBy (h : measure default = 0) (book : Book ν) (name : String) :
    measure (book.getD name default) ≤ book.sumBy measure := by
  rw [measure_getD measure h]
  obtain ⟨entries⟩ := book
  unfold get? sumBy
  induction entries with
  | nil => exact Nat.le_refl 0
  | cons entry rest ih =>
    obtain ⟨other, old⟩ := entry
    by_cases hname : other = name
    · simp only [lookup, hname, if_true, List.foldr_cons]
      exact Nat.le_add_right _ _
    · simp only [lookup, hname, if_false, List.foldr_cons]
      exact Nat.le_trans ih (Nat.le_add_left _ _)

/-- **Putting replaces** what stood under the name. -/
theorem sumBy_put_getD (default : ν) (h : measure default = 0) (book : Book ν) (name : String)
    (value : ν) :
    (book.put name value).sumBy measure + measure (book.getD name default)
      = book.sumBy measure + measure value := by
  rw [measure_getD measure h]
  exact sumBy_put measure book name value

/-- **Erasing takes away** what stood under the name. -/
theorem sumBy_erase (default : ν) (h : measure default = 0) (hnodup : book.names.Nodup)
    (name : String) :
    (book.erase name).sumBy measure + measure (book.getD name default) = book.sumBy measure := by
  rw [measure_getD measure h]
  obtain ⟨entries⟩ := book
  unfold names get? sumBy erase at *
  induction entries with
  | nil => rfl
  | cons entry rest ih =>
    obtain ⟨hentry, hrest⟩ := List.nodup_cons.1 hnodup
    obtain ⟨other, old⟩ := entry
    by_cases hname : other = name
    · subst hname
      have hothers : rest.filter (fun entry => decide (entry.1 ≠ other)) = rest :=
        List.filter_eq_self.2 fun entry hmem =>
          decide_eq_true fun heq => hentry (List.mem_map.2 ⟨entry, hmem, heq⟩)
      simp only [lookup, if_true, List.filter_cons, ne_eq, not_true_eq_false, decide_false,
        Bool.false_eq_true, if_false, List.foldr_cons, Option.map_some, Option.getD_some]
        at hothers ⊢
      rw [hothers, Nat.add_comm]
    · have hsum := ih hrest
      simp only [lookup, hname, if_false, List.filter_cons, ne_eq, not_false_eq_true,
        decide_true, if_true, List.foldr_cons] at hsum ⊢
      omega

end Book

namespace Ledger

variable {ledger middle left : Ledger} {spent gained spent' gained' : Nat}

/-! ## Worth -/

/-- **What a ledger is worth**: every balance, and all that is pending. -/
def worth (ledger : Ledger) : Nat :=
  ledger.x.sumBy UInt64.toNat + ledger.p.sumBy UInt64.toNat + ledger.c.sumBy id
    + ledger.pending.sumBy UInt64.toNat

/-- **No address stands twice** in a book of money. -/
structure Tidy (ledger : Ledger) : Prop where
  x : ledger.x.names.Nodup
  p : ledger.p.names.Nodup
  c : ledger.c.names.Nodup
  pending : ledger.pending.names.Nodup

theorem xBalance_le_worth (ledger : Ledger) (address : String) :
    (ledger.xBalance address).toNat ≤ ledger.worth :=
  Nat.le_trans (Book.measure_getD_le_sumBy UInt64.toNat rfl ledger.x address)
    (by unfold worth; omega)

theorem pBalance_le_worth (ledger : Ledger) (address : String) :
    (ledger.pBalance address).toNat ≤ ledger.worth :=
  Nat.le_trans (Book.measure_getD_le_sumBy UInt64.toNat rfl ledger.p address)
    (by unfold worth; omega)

/-- **No balance is larger than the worth** of its ledger. -/
theorem cBalance_le_worth (ledger : Ledger) (address : String) :
    ledger.cBalance address ≤ ledger.worth :=
  Nat.le_trans (Book.measure_getD_le_sumBy id rfl ledger.c address)
    (by unfold worth; omega)

theorem pending_le_worth (ledger : Ledger) (address : String) :
    (ledger.pending.getD address 0).toNat ≤ ledger.worth :=
  Nat.le_trans (Book.measure_getD_le_sumBy UInt64.toNat rfl ledger.pending address)
    (by unfold worth; omega)

/-! ## Accounts -/

/-- A balance of the exchange lane is written down, in the history as well. -/
def writeX (ledger : Ledger) (address : String) (balance : Amount) : Ledger :=
  { ledger with
    x := ledger.x.put address balance
    history := ledger.history.put address (ledger.history.getD address [] ++ [balance]) }

/-- A balance of the platform lane is written down, in the history as well. -/
def writeP (ledger : Ledger) (address : String) (balance : Amount) : Ledger :=
  { ledger with
    p := ledger.p.put address balance
    history := ledger.history.put address (ledger.history.getD address [] ++ [balance]) }

/-- **What became of the money** of a ledger: so much of it was spent, and so
much was gained. The fee stays what it is. -/
structure Moved (ledger : Ledger) (spent gained : Nat) (left : Ledger) : Prop where
  fee_eq : left.fee = ledger.fee
  tidy : ledger.Tidy → left.Tidy
  worth_eq : ledger.Tidy → left.worth + spent = ledger.worth + gained

namespace Moved

theorem refl (ledger : Ledger) : Moved ledger 0 0 ledger := ⟨rfl, id, fun _ => rfl⟩

/-- What is beside the books of money is of no account. -/
theorem of_books (h : Moved ledger spent gained middle) (hfee : left.fee = middle.fee)
    (hx : left.x = middle.x) (hp : left.p = middle.p) (hc : left.c = middle.c)
    (hpending : left.pending = middle.pending) : Moved ledger spent gained left where
  fee_eq := hfee.trans h.fee_eq
  tidy htidy := by
    obtain ⟨hnodupx, hnodupp, hnodupc, hnoduppending⟩ := h.tidy htidy
    exact ⟨hx ▸ hnodupx, hp ▸ hnodupp, hc ▸ hnodupc, hpending ▸ hnoduppending⟩
  worth_eq htidy := by
    rw [worth, hx, hp, hc, hpending]
    exact h.worth_eq htidy

/-- **Accounts of parts add up.** -/
theorem trans (h : Moved ledger spent gained middle) (hnext : Moved middle spent' gained' left) :
    Moved ledger (spent + spent') (gained + gained') left where
  fee_eq := hnext.fee_eq.trans h.fee_eq
  tidy htidy := hnext.tidy (h.tidy htidy)
  worth_eq htidy := by
    have hfirst := h.worth_eq htidy
    have hsecond := hnext.worth_eq (h.tidy htidy)
    omega

/-- What was gained and spent again does not count. -/
theorem settle (h : Moved ledger spent gained left) (heq : spent + gained' = spent' + gained) :
    Moved ledger spent' gained' left where
  fee_eq := h.fee_eq
  tidy := h.tidy
  worth_eq htidy := by
    have hworth := h.worth_eq htidy
    omega

/-- **A balance of the exchange lane is replaced.** -/
theorem writeX (ledger : Ledger) (address : String) (balance : Amount) :
    Moved ledger (ledger.xBalance address).toNat balance.toNat (ledger.writeX address balance) where
  fee_eq := rfl
  tidy h := { h with x := Book.nodup_put h.x address balance }
  worth_eq _ := by
    have hput := Book.sumBy_put_getD UInt64.toNat 0 rfl ledger.x address balance
    simp only [worth, xBalance, Ledger.writeX]
    omega

/-- **A balance of the platform lane is replaced.** -/
theorem writeP (ledger : Ledger) (address : String) (balance : Amount) :
    Moved ledger (ledger.pBalance address).toNat balance.toNat (ledger.writeP address balance) where
  fee_eq := rfl
  tidy h := { h with p := Book.nodup_put h.p address balance }
  worth_eq _ := by
    have hput := Book.sumBy_put_getD UInt64.toNat 0 rfl ledger.p address balance
    simp only [worth, pBalance, Ledger.writeP]
    omega

/-- **A balance of the contract lane is replaced.** -/
theorem putC (ledger : Ledger) (address : String) (balance : Nat) :
    Moved ledger (ledger.cBalance address) balance
      { ledger with c := ledger.c.put address balance } where
  fee_eq := rfl
  tidy h := { h with c := Book.nodup_put h.c address balance }
  worth_eq _ := by
    have hput := Book.sumBy_put_getD id 0 rfl ledger.c address balance
    simp only [worth, cBalance, id] at hput ⊢
    omega

/-- **What is pending is replaced.** -/
theorem putPending (ledger : Ledger) (address : String) (amount : Amount) :
    Moved ledger (ledger.pending.getD address 0).toNat amount.toNat
      { ledger with pending := ledger.pending.put address amount } where
  fee_eq := rfl
  tidy h := { h with pending := Book.nodup_put h.pending address amount }
  worth_eq _ := by
    have hput := Book.sumBy_put_getD UInt64.toNat 0 rfl ledger.pending address amount
    simp only [worth]
    omega

/-- **What is pending is taken away.** -/
theorem erasePending (ledger : Ledger) (address : String) :
    Moved ledger (ledger.pending.getD address 0).toNat 0
      { ledger with pending := ledger.pending.erase address } where
  fee_eq := rfl
  tidy h := { h with pending := Book.nodup_erase h.pending address }
  worth_eq h := by
    have herase := Book.sumBy_erase UInt64.toNat 0 rfl h.pending address
    simp only [worth]
    omega

end Moved

/-! ## The first ledger -/

/-- A ledger in the beginning has one entry. -/
theorem tidy_ofGenesis (genesis : Genesis) (fee : Amount) : (ofGenesis genesis fee).Tidy where
  x := List.nodup_singleton _
  p := List.nodup_nil
  c := List.nodup_nil
  pending := List.nodup_nil

/-- **In the beginning** a ledger is worth what the funded account holds. -/
theorem worth_ofGenesis (genesis : Genesis) (fee : Amount) :
    (ofGenesis genesis fee).worth = fundedBalance.toNat := by
  simp [worth, ofGenesis, Book.put, Book.empty, Book.replace, Book.sumBy]

end Ledger

end LedgerNet
