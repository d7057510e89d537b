/-!
# Books

A book keeps one value under each name. It is looked at through `get?`;
`put` and `erase` say what they do to that view, and the sum of a book moves
by exactly what is put into it.
-/

namespace LedgerNet

/-- **A book of values by name.** -/
structure Book (ν : Type) where
  entries : List (String × ν)
  deriving DecidableEq, Repr

namespace Book

variable {ν : Type}

def empty : Book ν := ⟨[]⟩

instance : Inhabited (Book ν) := ⟨empty⟩

/-- The value under a name in some entries. -/
def lookup (name : String) : List (String × ν) → Option ν
  | [] => none
  | (other, value) :: rest => if other = name then some value else lookup name rest

/-- Entries with a value under a name, in place of what stood there. -/
def replace (name : String) (value : ν) : List (String × ν) → List (String × ν)
  | [] => [(name, value)]
  | (other, old) :: rest =>
    if other = name then (name, value) :: rest else (other, old) :: replace name value rest

/-- **The value under a name.** -/
def get? (book : Book ν) (name : String) : Option ν := lookup name book.entries

/-- The value under a name, or a default. -/
def getD (book : Book ν) (name : String) (default : ν) : ν := (book.get? name).getD default

/-- **The book with a value under a name.** -/
def put (book : Book ν) (name : String) (value : ν) : Book ν :=
  ⟨replace name value book.entries⟩

/-- The book without a name. -/
def erase (book : Book ν) (name : String) : Book ν :=
  ⟨book.entries.filter fun entry => entry.1 ≠ name⟩

/-- The names of a book. -/
def names (book : Book ν) : List String := book.entries.map (·.1)

/-- The sum of what the book holds, each value counted by a measure. -/
def sumBy (measure : ν → Nat) (book : Book ν) : Nat :=
  book.entries.foldr (fun entry sum => measure entry.2 + sum) 0

@[simp] theorem get?_put_self (book : Book ν) (name : String) (value : ν) :
    (book.put name value).get? name = some value := by
  unfold put get?
  generalize book.entries = entries
  induction entries with
  | nil => simp [replace, lookup]
  | cons entry rest ih =>
    obtain ⟨other, old⟩ := entry
    by_cases h : other = name <;> simp [replace, lookup, h, ih]

theorem get?_put_of_ne (book : Book ν) {name asked : String} (h : asked ≠ name) (value : ν) :
    (book.put name value).get? asked = book.get? asked := by
  unfold put get?
  generalize book.entries = entries
  induction entries with
  | nil => simp [replace, lookup, h.symm]
  | cons entry rest ih =>
    obtain ⟨other, old⟩ := entry
    by_cases ho : other = name
    · subst ho
      simp [replace, lookup, h.symm]
    · by_cases ha : other = asked
      · subst ha
        simp [replace, lookup, ho]
      · simp [replace, lookup, ho, ha, ih]

@[simp] theorem get?_erase_self (book : Book ν) (name : String) :
    (book.erase name).get? name = none := by
  unfold erase get?
  generalize book.entries = entries
  induction entries with
  | nil => rfl
  | cons entry rest ih =>
    obtain ⟨other, old⟩ := entry
    by_cases h : other = name <;> simp_all [lookup]

theorem get?_erase_of_ne (book : Book ν) {name asked : String} (h : asked ≠ name) :
    (book.erase name).get? asked = book.get? asked := by
  unfold erase get?
  generalize book.entries = entries
  induction entries with
  | nil => rfl
  | cons entry rest ih =>
    obtain ⟨other, old⟩ := entry
    by_cases ho : other = name
    · subst ho
      simp_all [lookup, h.symm]
    · by_cases ha : other = asked <;> simp_all [lookup]

/-- **Putting a value moves the sum** by the difference to what stood under
the name. -/
theorem sumBy_put (measure : ν → Nat) (book : Book ν) (name : String) (value : ν) :
    (book.put name value).sumBy measure + ((book.get? name).map measure).getD 0
      = book.sumBy measure + measure value := by
  unfold put get? sumBy
  generalize book.entries = entries
  induction entries with
  | nil => simp [replace, lookup]
  | cons entry rest ih =>
    obtain ⟨other, old⟩ := entry
    by_cases h : other = name
    · subst h
      simp [replace, lookup]
      omega
    · simp only [replace, lookup, h, if_false, List.foldr_cons] at ih ⊢
      omega

end Book

end LedgerNet
