/-!
# Lanes

A node runs three ledgers side by side. Validators and delegators stake on
the platform lane `P`, the native asset moves on the exchange lane `X`, and
contracts run on the contract lane `C`. An address belongs to one lane and
says so with a letter before its first dash; the part after the dash is the
same for one key on every lane.
-/

namespace LedgerNet

/-- **One of the three ledgers of a node.** -/
inductive Lane where
  /-- Staking, validators and delegation. -/
  | p
  /-- Transfers of the native asset. -/
  | x
  /-- Contracts. -/
  | c
  deriving DecidableEq, Repr

namespace Lane

/-- The letter of a lane, in paths, in queries and before addresses. -/
def letter : Lane → String
  | .p => "P"
  | .x => "X"
  | .c => "C"

/-- Every lane, in the usual order. -/
def all : List Lane := [.p, .x, .c]

/-- The lane with a given letter. -/
def ofLetter? : String → Option Lane
  | "P" => some .p
  | "X" => some .x
  | "C" => some .c
  | _ => none

@[simp] theorem ofLetter?_letter (lane : Lane) : ofLetter? lane.letter = some lane := by
  cases lane <;> rfl

end Lane

/-- **The names of a network's lanes and of its native asset**, fixed when
a run starts. -/
structure ChainIds where
  /-- The number of the network. -/
  networkId : UInt32
  x : String
  p : String
  c : String
  /-- The id of the native asset. -/
  assetId : String
  /-- The short name of the native asset. -/
  assetAlias : String
  deriving DecidableEq, Repr

namespace ChainIds

/-- The names on the local network. -/
def localNet : ChainIds where
  networkId := 12345
  x := "2eNy1mUFdmaxXNj1eQHUe7Np4gju9sJsEtWQ4MX3ToiNKuADed"
  p := "11111111111111111111111111111111LpoYY"
  c := "WKNkfmNxgqpKPe9Q12UCoTuGYXX5JbQn2tf2WTpNTJeQrezqa"
  assetId := "2fombhL7aGPwj3KH4bfrmJwW6PVnMobf9Y2fn9GwxiAAJyFDbe"
  assetAlias := "AVAX"

/-- The id of a lane. -/
def ofLane (ids : ChainIds) : Lane → String
  | .p => ids.p
  | .x => ids.x
  | .c => ids.c

end ChainIds

/-! ## Addresses on another lane -/

/-- The part of an address that is the same on every lane: what follows its
first dash, or all of it where there is none. -/
def addressBody (cs : List Char) : List Char :=
  if '-' ∈ cs then (cs.dropWhile (· != '-')).drop 1 else cs

/-- **The form of an address on a lane**: the letter of the lane, a dash and
the body of the address. -/
def Lane.address (lane : Lane) (address : String) : String :=
  lane.letter ++ "-" ++ String.ofList (addressBody address.toList)

/-- The body of a text with a dash in it is what follows the first one. -/
theorem addressBody_append {before body : List Char} (h : '-' ∉ before) :
    addressBody (before ++ '-' :: body) = body := by
  have hdrop : (before ++ '-' :: body).dropWhile (· != '-') = '-' :: body := by
    induction before with
    | nil => simp
    | cons c cs ih =>
      have hc : c ≠ '-' := fun hc => h (by simp [hc])
      simp only [List.cons_append, List.dropWhile_cons]
      simp [hc, ih (fun hm => h (by simp [hm]))]
  simp [addressBody, hdrop]

@[simp] theorem addressBody_address (lane : Lane) (address : String) :
    addressBody (lane.address address).toList = addressBody address.toList := by
  have hletter : lane.letter.toList = [lane.letter.toList.headD 'P'] := by cases lane <;> rfl
  have hdash : '-' ∉ lane.letter.toList := by cases lane <;> decide
  have hsplit : (lane.address address).toList
      = lane.letter.toList ++ '-' :: addressBody address.toList := by
    simp [Lane.address]
  rw [hsplit, addressBody_append hdash]

end LedgerNet
