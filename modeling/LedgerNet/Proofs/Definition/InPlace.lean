import LedgerNet.Definition.InPlace
import LedgerNet.Proofs.Definition.Indexed

/-!
# Additions that are taken back

Entering a node into a definition and withdrawing it again are inverse to
each other, and what fails changes nothing. The table forgets how it grew, so
a definition is restored up to `==` and not to the letter: all that can be
asked of it is as before. In between stands the plain definition, of which
there is only one form. Whatever is done in place leads to an index of the
plain definition that the same edits lead to (`Reached.represents`), and two
indexes of one definition are equal (`Represents.beq`).

The order and the chain are restored by leaving out an id wherever it stands.
That takes back what was added and nothing else because the plain definition
is consistent: a new id stands nowhere in it.
-/

namespace LedgerNet

namespace IndexedDefinition

variable {k k' : IndexedDefinition} {d : Definition} {node : NodeConfig} {id : String}

/-! ## Equality -/

/-- Equal definitions hold the same, container by container. -/
theorem beq_iff : (k == k') = true
    ↔ k.params = k'.params ∧ (∀ id : String, k.table[id]? = k'.table[id]?) ∧ k.order = k'.order
      ∧ k.chain = k'.chain := by
  have htable : (k.table == k'.table) = true ↔ ∀ id : String, k.table[id]? = k'.table[id]? := by
    rw [Std.HashMap.beq_iff_equiv]
    exact ⟨fun h id => h.getElem?_eq, Std.HashMap.Equiv.of_forall_getElem?_eq⟩
  show (k.params == k'.params && k.table == k'.table && k.order == k'.order
    && k.chain == k'.chain) = true ↔ _
  simp only [Bool.and_eq_true, htable, beq_iff_eq, and_assoc]

instance : ReflBEq IndexedDefinition where
  rfl := beq_iff.2 ⟨rfl, fun _ => rfl, rfl, rfl⟩

/-- **Two indexes of one definition are equal.** -/
theorem Represents.beq (h : k.Represents d) (h' : k'.Represents d) : (k == k') = true :=
  beq_iff.2 ⟨h.params_eq.trans h'.params_eq.symm,
    fun id => (h.table_eq id).trans (h'.table_eq id).symm,
    h.order_eq.trans h'.order_eq.symm, h.chain_eq.trans h'.chain_eq.symm⟩

/-- An index that is equal to another represents what that one represents. -/
theorem Represents.of_beq (h : k.Represents d) (heq : (k' == k) = true) : k'.Represents d := by
  obtain ⟨hparams, htable, horder, hchain⟩ := beq_iff.1 heq
  exact ⟨hparams.trans h.params_eq, fun id => (htable id).trans (h.table_eq id),
    horder.trans h.order_eq, hchain.trans h.chain_eq⟩

/-! ## Edits in place -/

/-- Entering a node is its checks and then its writes. -/
theorem enter_on (node : NodeConfig) : (enter node).on k =
    match k.objection? node.params with
    | some cause => (.error cause, k)
    | none =>
      (.ok ((write (node.stamped k.chain)).run k).1, ((write (node.stamped k.chain)).run k).2) := by
  show InPlace.on (match k.objection? node.params with
    | some cause => throw cause
    | none => (do write (node.stamped (← get).chain) : InPlace NodeConfig)) k = _
  cases k.objection? node.params <;> rfl

/-- **An objection comes before the first write.** -/
theorem enter_of_refused {cause : DefinitionError} (h : k.objection? node.params = some cause) :
    (enter node).on k = (.error cause, k) := by
  rw [enter_on, h]

/-- **A node under a new id is written to all three containers.** Where the
table holds nothing under the id, entering it is storing it. -/
theorem write_run (entry : NodeConfig) (hnew : k.table.contains entry.id = false) :
    ∃ written, (write entry).run k = (entry, written)
      ∧ (written == { k with
          table := k.table.insert entry.id entry
          order := k.order ++ [entry.id]
          chain := if entry.isBootstrap then k.chain ++ [entry.asPeer] else k.chain }) = true := by
  have hnone : k.table[entry.id]? = none := by simpa using hnew
  refine ⟨{ k with
    table := k.table.insertIfNew entry.id entry
    order := k.order ++ [entry.id]
    chain := if entry.isBootstrap then k.chain ++ [entry.asPeer] else k.chain }, ?_,
    beq_iff.2 ⟨rfl, fun id => ?_, rfl, rfl⟩⟩
  · cases hrole : entry.isBootstrap <;> simp [write, hrole, hnone] <;> rfl
  · rw [Std.HashMap.getElem?_insertIfNew, Std.HashMap.getElem?_insert]
    have hnotMem : entry.id ∉ k.table := by simpa using hnew
    simp [hnotMem]

/-- **A node that nothing speaks against** is stored with the chain as its
stamp, in a definition that is the extended one. -/
theorem enter_of_accepted (h : k.objection? node.params = none)
    (hnew : k.table.contains node.id = false) :
    ∃ entered, (enter node).on k = (.ok ⟨node.params, k.chain⟩, entered)
      ∧ (entered == k.extended node.params) = true := by
  obtain ⟨entered, hrun, heq⟩ := write_run (node.stamped k.chain) hnew
  refine ⟨entered, ?_, heq⟩
  rw [enter_on, h]
  simp only [hrun]
  rfl

/-- **Withdrawing a node in place is removing it.** -/
theorem withdraw_run (id : String) : (withdraw id).run k = k.remove id := by
  unfold remove
  cases hnode : k.table[id]? <;> simp [withdraw, hnode] <;> rfl

/-! ## Definitions that edits lead to -/

/-- **An indexed definition that edits in place have led to**, with the plain
one that the same edits lead to. Edits that fail are among them. -/
inductive Reached : IndexedDefinition → Definition → Prop
  | empty {k : IndexedDefinition} {d : Definition} {params : NetworkParams}
      (hk : IndexedDefinition.ofParams params = .ok k) (hd : Definition.ofParams params = .ok d) :
      Reached k d
  | entered {k : IndexedDefinition} {d : Definition} (h : Reached k d) (node : NodeConfig) :
      Reached ((enter node).on k).2 (d.edited (.add node.params))
  | withdrawn {k : IndexedDefinition} {d : Definition} (h : Reached k d) (id : String) :
      Reached ((withdraw id).run k).2 (d.edited (.remove id))

namespace Represents

/-- Entering a node keeps an index one of the definition that adding leads
to. -/
theorem entered (h : k.Represents d) (node : NodeConfig) :
    ((enter node).on k).2.Represents (d.edited (.add node.params)) := by
  have hobjection : k.objection? node.params = d.objection? node.params := h.objection?_eq
  cases hplain : d.objection? node.params with
  | some cause =>
    rw [enter_of_refused (hobjection.trans hplain), Definition.edited_add_of_refused hplain]
    exact h
  | none =>
    have hnew : k.table.contains node.id = false :=
      (h.contains_eq node.id).trans (Definition.fresh_of_accepted hplain).2
    obtain ⟨after, hafter, heq⟩ := enter_of_accepted (hobjection.trans hplain) hnew
    rw [hafter, Definition.edited_add_of_accepted hplain]
    exact (h.extended hplain).of_beq heq

end Represents

namespace Reached

/-- **Every edit is made in all three containers**, and keeps the definition
consistent. -/
theorem represents (h : Reached k d) : k.Represents d ∧ d.Consistent := by
  induction h with
  | empty hk hd =>
    obtain ⟨start, hstart, hrep⟩ := Represents.ofParams hd
    cases hk.symm.trans hstart
    exact ⟨hrep, .ofParams hd⟩
  | entered _ node ih => exact ⟨ih.1.entered node, ih.2.edited _⟩
  | withdrawn _ id ih =>
    rw [withdraw_run]
    exact ⟨(ih.1.remove id).2, ih.2.edited _⟩

/-- A node that is entered can be withdrawn, stamp and all, which leaves an
index of the definition that there was before. -/
theorem withdraw_entered (h : Reached k d) {stored : NodeConfig} {after : IndexedDefinition}
    (hafter : (enter node).on k = (.ok stored, after)) :
    stored = ⟨node.params, k.chain⟩ ∧ d.add node.params = .ok (d.extended node.params)
      ∧ (d.extended node.params).remove node.id = (some stored, d)
      ∧ ∃ restored, (withdraw node.id).run after = (some stored, restored)
        ∧ restored.Represents d := by
  obtain ⟨hrep, hd⟩ := h.represents
  have hobjection : k.objection? node.params = none := by
    rw [enter_on] at hafter
    cases hk : k.objection? node.params with
    | none => rfl
    | some cause => simp [hk] at hafter
  have hplain : d.objection? node.params = none := hrep.objection?_eq.symm.trans hobjection
  have hfresh := (Definition.fresh_of_accepted hplain).2
  obtain ⟨entered, hentered, heq⟩ :=
    enter_of_accepted hobjection ((hrep.contains_eq node.id).trans hfresh)
  obtain ⟨hstored, rfl⟩ : stored = ⟨node.params, k.chain⟩ ∧ after = entered := by
    simpa using hafter.symm.trans hentered
  have hremoved : (d.extended node.params).remove node.id = (some stored, d) := by
    rw [hstored, hrep.chain_eq]
    exact hd.remove_extended_eq hplain
  obtain ⟨hanswer, hrestored⟩ := ((hrep.extended hplain).of_beq heq).remove node.id
  rw [hremoved] at hanswer hrestored
  exact ⟨hstored, by simp [Definition.add, hplain], hremoved, (after.remove node.id).2,
    (withdraw_run node.id).trans (Prod.ext hanswer rfl), hrestored⟩

/-- **Adding and removing are inverse to each other, and what fails changes
nothing.** In every definition that edits lead to: a node that is refused
leaves the definition as it was; a node that is accepted is stored with the
chain as its stamp, and removing its id right after answers with that very
node and leaves a definition equal to the one before; and removing an id that
is not defined answers with nothing and leaves the definition as it was. The
three containers are edited in place here; the plain definition that goes with
them does the same. -/
theorem edits_taken_back (h : Reached k d) (node : NodeConfig) :
    (∀ cause after, (enter node).on k = (.error cause, after) →
        after = k ∧ d.add node.params = .error cause)
      ∧ (∀ stored after, (enter node).on k = (.ok stored, after) →
        stored = ⟨node.params, k.chain⟩
          ∧ (∃ restored, (withdraw node.id).run after = (some stored, restored)
            ∧ (restored == k) = true)
          ∧ ∃ extended, d.add node.params = .ok extended
            ∧ extended.remove node.id = (some stored, d))
      ∧ ∀ id, k.table.contains id = false →
        (withdraw id).run k = (none, k) ∧ d.remove id = (none, d) := by
  obtain ⟨hrep, -⟩ := h.represents
  refine ⟨?refused, ?accepted, ?undefined⟩
  case refused =>
    intro cause after hafter
    have hobjection : k.objection? node.params = d.objection? node.params := hrep.objection?_eq
    rw [enter_on] at hafter
    cases hk : k.objection? node.params with
    | none => simp [hk] at hafter
    | some other =>
      obtain ⟨rfl, rfl⟩ : other = cause ∧ k = after := by simpa [hk] using hafter
      exact ⟨rfl, by simp [Definition.add, ← hobjection, hk]⟩
  case accepted =>
    intro stored after hafter
    obtain ⟨hstored, hadd, hremove, restored, hrestored, hback⟩ := h.withdraw_entered hafter
    exact ⟨hstored, ⟨restored, hrestored, hback.beq hrep⟩, _, hadd, hremove⟩
  case undefined =>
    intro id hid
    have hnone : k.table[id]? = none := by simpa using hid
    have hplain : d.node? id = none := (hrep.table_eq id).symm.trans hnone
    exact ⟨by simp [withdraw_run, IndexedDefinition.remove, hnone],
      by simp [Definition.remove, hplain]⟩

/-- A second bootstrap node, which arrives with the stamp of another network.
It is entered behind the first one, and withdrawing it leaves the chain of the
first one alone. -/
theorem edits_taken_back_second :
    let member (id : String) : NodeConfig :=
      ⟨{ NodeParams.plain .empty id with role := .bootstrap 0 }, [⟨"other", "other"⟩]⟩
    let k := ((enter (member "b1")).on ⟨⟨"node", 1, 1, 1⟩, ∅, [], []⟩).2
    ∃ stored after restored, (enter (member "b2")).on k = (.ok stored, after)
      ∧ stored.dependsOn = [⟨"b1", "b1"⟩]
      ∧ (withdraw "b2").run after = (some stored, restored) ∧ (restored == k) = true := by
  intro member k
  have hd : Definition.ofParams ⟨"node", 1, 1, 1⟩ = .ok ⟨⟨"node", 1, 1, 1⟩, [], []⟩ := by decide
  have hk : IndexedDefinition.ofParams ⟨"node", 1, 1, 1⟩
      = .ok ⟨⟨"node", 1, 1, 1⟩, ∅, [], []⟩ := rfl
  have hreached := (Reached.empty hk hd).entered (member "b1")
  obtain ⟨hrep, -⟩ := hreached.represents
  -- the plain definition says what the table would answer
  have haccepted : k.objection? (member "b2").params = none :=
    hrep.objection?_eq.trans (by decide)
  have hnew : k.table.contains (member "b2").id = false :=
    (hrep.contains_eq "b2").trans (by decide)
  obtain ⟨after, hafter, -⟩ := enter_of_accepted haccepted hnew
  obtain ⟨-, htaken, -⟩ := edits_taken_back hreached (member "b2")
  obtain ⟨-, ⟨restored, hrestored, heq⟩, -⟩ := htaken _ _ hafter
  exact ⟨_, after, restored, hafter, hrep.chain_eq.trans (by decide), hrestored, heq⟩

end Reached

end IndexedDefinition

end LedgerNet
