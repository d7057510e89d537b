import LedgerNet.Proofs.Definition.Preset
import LedgerNet.Proofs.LocalNetwork.Money

/-!
# Addresses that are handed out

A new address of a user is the name of the user followed by how many addresses
the user has on the lane by then. So the addresses of one user are different
ones. Nothing stands between the name and the number, and where a name ends in
a number itself, that number can be read as the beginning of a longer one: the
first address of `a1` is the eleventh one of `a`, and the two users have one
balance there.

`addresses_distinct_iff` says that there is no other way. All addresses that
are handed out on a lane are different ones if and only if nobody whose name
is another one's and a number `k` has an address while the other one has more
than `10 * k` of them. It takes more than ten addresses of one user to get there
(`nodup_grantsOn_of_count_le_ten`).

Who gets addresses is told apart from what they look like. The names of those
who get them, each with the number of addresses it has by then (`numbered`),
are all there is to the addresses (`grantsOn_eq`).
-/

namespace LedgerNet

/-! ## Numbers at the end of a text -/

/-- **What stands before the last digits of a number** is a number itself, and
at most a tenth of it. -/
theorem exists_toDigits_of_append {n : Nat} {before after : List Char}
    (h : Nat.toDigits 10 n = before ++ after) (hbefore : before ≠ []) (hafter : after ≠ []) :
    ∃ number, 0 < number ∧ before = Nat.toDigits 10 number ∧ 10 * number ≤ n := by
  induction after using List.reverseRecOn generalizing n with
  | nil => exact absurd rfl hafter
  | append_singleton front last ih =>
    -- two digits at least
    have hlarge : 10 ≤ n := by
      by_contra hsmall
      have hlength := congrArg List.length h
      have hpos := List.length_pos_iff.2 hbefore
      rw [Nat.toDigits_of_lt_base (Nat.not_le.1 hsmall), List.length_append, List.length_append,
        List.length_singleton, List.length_singleton] at hlength
      omega
    rw [Nat.toDigits_of_base_le (by decide) hlarge, ← List.append_assoc] at h
    obtain ⟨hfront, -⟩ := List.append_inj' h rfl
    by_cases hempty : front = []
    · rw [hempty, List.append_nil] at hfront
      exact ⟨n / 10, by omega, hfront.symm, by omega⟩
    · obtain ⟨number, hpos, hnumber, hle⟩ := ih hfront hempty
      exact ⟨number, hpos, hnumber, by omega⟩

/-- **A longer name with a number after it** that is a shorter one with a number
after it: what the longer name has more is the beginning of the latter number. -/
theorem exists_number_of_longer {first second : String} {more : List Char} {i j : Nat}
    (hname : second.toList = first.toList ++ more) (hne : first ≠ second)
    (hdigits : (toString i).toList = more ++ (toString j).toList) :
    ∃ number, 0 < number ∧ second = first ++ toString number ∧ 10 * number ≤ i := by
  have hmore : more ≠ [] := by
    rintro rfl
    rw [List.append_nil] at hname
    exact hne (String.toList_injective hname.symm)
  rw [Nat.toString_eq_repr, Nat.toString_eq_repr, Nat.toList_repr, Nat.toList_repr] at hdigits
  obtain ⟨number, hpos, rfl, hle⟩ :=
    exists_toDigits_of_append hdigits hmore Nat.toDigits_ne_nil
  refine ⟨number, hpos, String.toList_injective ?_, hle⟩
  rw [hname, String.toList_append, Nat.toString_eq_repr, Nat.toList_repr]

/-- **Different names with numbers after them** are the same text only if one of
the names is the other one and a number, which begins the number after that. -/
theorem exists_number_of_append_eq {first second : String} {i j : Nat}
    (h : first ++ toString i = second ++ toString j) (hne : first ≠ second) :
    (∃ number, 0 < number ∧ second = first ++ toString number ∧ 10 * number ≤ i)
      ∨ ∃ number, 0 < number ∧ first = second ++ toString number ∧ 10 * number ≤ j := by
  have hlist := congrArg String.toList h
  rw [String.toList_append, String.toList_append] at hlist
  obtain ⟨more, hname, hdigits⟩ | ⟨more, hname, hdigits⟩ := List.append_eq_append_iff.1 hlist
  · exact Or.inl (exists_number_of_longer hname hne hdigits)
  · exact Or.inr (exists_number_of_longer hname hne.symm hdigits)

/-- Ten times a number is the number with a zero after it. -/
theorem toString_ten_mul {number : Nat} (h : 0 < number) :
    toString (10 * number) = toString number ++ toString 0 := by
  have hlarge : 10 ≤ 10 * number := by omega
  have hsplit := Nat.repr_eq_repr_append_repr hlarge
  rwa [Nat.mul_div_cancel_left number (by decide), Nat.mul_mod_right] at hsplit

/-! ## Names in the order in which they come -/

/-- **Names with their numbers**: how often each has come before, from how often
it had come in the beginning. -/
def numbered (had : String → Nat) : List String → List (String × Nat)
  | [] => []
  | name :: rest =>
    (name, had name) :: numbered (Function.update had name (had name + 1)) rest

section Numbered

variable {had : String → Nat} {names : List String} {name : String} {i : Nat}

/-- The numbers of a name go from what it had on, as far as it comes. -/
theorem mem_numbered_iff :
    (name, i) ∈ numbered had names ↔ had name ≤ i ∧ i < had name + names.count name := by
  induction names generalizing had with
  | nil =>
    rw [numbered, List.count_nil]
    exact iff_of_false List.not_mem_nil (by omega)
  | cons other rest ih =>
    rw [numbered, List.mem_cons, ih, Prod.mk.injEq, List.count_cons]
    by_cases h : other = name
    · subst h
      simp only [Function.update_self, true_and, beq_self_eq_true, if_true]
      omega
    · simp only [Function.update_of_ne (Ne.symm h), Ne.symm h, false_and, false_or, beq_iff_eq, h,
        if_false, Nat.add_zero]

/-- From zero on, a name gets the numbers below how often it comes. -/
theorem mem_numbered_zero_iff :
    (name, i) ∈ numbered (fun _ => 0) names ↔ i < names.count name := by
  rw [mem_numbered_iff, Nat.zero_add]
  exact and_iff_right (Nat.zero_le i)

/-- No name has a number twice. -/
theorem nodup_numbered : (numbered had names).Nodup := by
  induction names generalizing had with
  | nil => exact List.nodup_nil
  | cons name rest ih =>
    refine List.nodup_cons.2 ⟨fun hmem => ?_, ih⟩
    have hlater := (mem_numbered_iff.1 hmem).1
    rw [Function.update_self] at hlater
    omega

end Numbered

/-! ## The form of an address -/

/-- **An address of a user on a lane**: what `Ledger.newAddress` makes of the name
and of how many addresses the user has. -/
def addressOf (lane : Lane) (name : String) (number : Nat) : String :=
  lane.letter ++ "-local1" ++ name ++ toString number

/-- The addresses of names, each with its number. -/
def addressesOf (lane : Lane) (names : List String) : List String :=
  (numbered (fun _ => 0) names).map fun entry => addressOf lane entry.1 entry.2

section Forms

variable {lane : Lane} {first second : String} {names : List String} {i j : Nat}

theorem addressOf_eq_iff :
    addressOf lane first i = addressOf lane second j
      ↔ first ++ toString i = second ++ toString j := by
  unfold addressOf
  simp only [String.append_assoc, String.append_right_inj]

/-- **When addresses are different ones**: if nobody whose name is another one's
and a number has an address while the other one has more than ten times that
number of them. -/
theorem nodup_addressesOf_iff :
    (addressesOf lane names).Nodup
      ↔ ∀ name number, 0 < number → name ++ toString number ∈ names →
        names.count name ≤ 10 * number := by
  unfold addressesOf
  rw [List.nodup_map_iff_inj_on nodup_numbered]
  constructor
  · intro hinj name number hpos hmem
    by_contra hmany
    -- the address of that number and a zero is the first one of the longer name
    have hlong : (name ++ toString number, 0) ∈ numbered (fun _ => 0) names :=
      mem_numbered_zero_iff.2 (List.count_pos_iff.2 hmem)
    have hshort : (name, 10 * number) ∈ numbered (fun _ => 0) names :=
      mem_numbered_zero_iff.2 (Nat.not_le.1 hmany)
    have hsame : name ++ toString (10 * number) = name ++ toString number ++ toString 0 := by
      rw [toString_ten_mul hpos, String.append_assoc]
    have hzero := (Prod.mk.inj (hinj _ hshort _ hlong (addressOf_eq_iff.2 hsame))).2
    omega
  · rintro hfew ⟨first, i⟩ hi ⟨second, j⟩ hj hsame
    have htext := addressOf_eq_iff.1 hsame
    by_cases hname : first = second
    case pos =>
      subst hname
      exact Prod.ext rfl (append_toString_injective first htext)
    case neg =>
      have hfirst := mem_numbered_zero_iff.1 hi
      have hsecond := mem_numbered_zero_iff.1 hj
      obtain ⟨number, hpos, rfl, hle⟩ | ⟨number, hpos, rfl, hle⟩ :=
        exists_number_of_append_eq htext hname
      · have hcount := hfew first number hpos (List.count_pos_iff.1 (Nat.zero_lt_of_lt hsecond))
        omega
      · have hcount := hfew second number hpos (List.count_pos_iff.1 (Nat.zero_lt_of_lt hfirst))
        omega

end Forms

/-! ## What the keystore hands out -/

/-- How many addresses users have on a lane. No address is one of the contract
lane. -/
def Registry.issued (registry : Registry) : Lane → String → Nat
  | .x => fun name => (registry.xAddresses name).length
  | .p => fun name => (registry.pAddresses name).length
  | .c => fun _ => 0

/-- One address more for a user on a lane. -/
def oneMore (issued : Lane → String → Nat) (lane : Lane) (name : String) : Lane → String → Nat :=
  Function.update issued lane (Function.update (issued lane) name (issued lane name + 1))

namespace Registry

variable (registry : Registry) (name address : String)

/-- One address more in a list of addresses of each user. -/
theorem length_update_append (addresses : String → List String) :
    (fun other => (Function.update addresses name (addresses name ++ [address]) other).length)
      = Function.update (fun other => (addresses other).length) name
        ((addresses name).length + 1) := by
  have hlength := Function.comp_update List.length addresses name (addresses name ++ [address])
  rwa [List.length_append, List.length_singleton] at hlength

theorem issued_addX :
    ({ registry with
      xAddresses := Function.update registry.xAddresses name
        (registry.xAddresses name ++ [address]) } : Registry).issued
      = oneMore registry.issued .x name := by
  funext lane
  cases lane with
  | x =>
    rw [oneMore, Function.update_self]
    exact length_update_append name address registry.xAddresses
  | p => rfl
  | c => rfl

theorem issued_addP :
    ({ registry with
      pAddresses := Function.update registry.pAddresses name
        (registry.pAddresses name ++ [address]) } : Registry).issued
      = oneMore registry.issued .p name := by
  funext lane
  cases lane with
  | p =>
    rw [oneMore, Function.update_self]
    exact length_update_append name address registry.pAddresses
  | x => rfl
  | c => rfl

end Registry

namespace Ledger

variable {ledger : Ledger} {user : User} {method : String}

/-- **A ledger hands an address out** to a user who is known, by the number of
those that the user has; or nothing happens. -/
def HandsOut (lane : Lane) (user : User) (action : LedgerAction String) (ledger : Ledger) : Prop :=
  Ends action ledger
    (fun address left => address = addressOf lane user.name (ledger.registry.issued lane user.name)
      ∧ left.registry.issued = oneMore ledger.registry.issued lane user.name)
    (fun left => left = ledger) False

/-- An entry of a known user that is a new address. -/
theorem handsOut_entry {lane : Lane} {f : Ledger → String × Ledger}
    (haddress : (f ledger).1 = addressOf lane user.name (ledger.registry.issued lane user.name))
    (hissued : (f ledger).2.registry.issued
      = oneMore ledger.registry.issued lane user.name) :
    HandsOut lane user (checkUser user method >>= fun _ => modifyGet f) ledger := by
  refine Ends.bind ((ends_checkUser ledger user method).mono (fun _ _ hknown => hknown)
    (fun _ hrefused => hrefused.1) id) ?_
  rintro _ _ ⟨rfl, -⟩
  exact Ends.of_modifyGet ⟨haddress, hissued⟩

theorem handsOut_xCreateAddress (user : User) (ledger : Ledger) :
    HandsOut .x user (xCreateAddress user) ledger := by
  refine handsOut_entry rfl ?_
  rw [registry_putX]
  exact Registry.issued_addX _ _ _

theorem handsOut_pCreateAddress (user : User) (ledger : Ledger) :
    HandsOut .p user (pCreateAddress user) ledger := by
  refine handsOut_entry rfl ?_
  rw [registry_putP]
  exact Registry.issued_addP _ _ _

/-- Who enters a user hands nothing out. -/
theorem issued_createUser :
    ((createUser user).run.run ledger).2.registry.issued = ledger.registry.issued := by
  show ((if _ then _ else _ : LedgerAction Unit).run.run ledger).2.registry.issued = _
  split <;> rfl

end Ledger

namespace LocalNetwork

/-- **A call that enters a user or asks for an address** for one. -/
inductive KeystoreCall where
  | createUser (user : User)
  | xCreateAddress (user : User)
  | pCreateAddress (user : User)

/-- **An address that was handed out**, and to whom. -/
structure Grant where
  lane : Lane
  name : String
  address : String
  deriving DecidableEq

/-- What an answer hands out. -/
def grantOf (lane : Lane) (user : User) : Outcome ApiError String → List Grant
  | .ok address => [⟨lane, user.name, address⟩]
  | .error _ => []

/-- **What a call hands out**, and the network after it. -/
def KeystoreCall.ask (client : LocalClient) (network : LocalNetwork) :
    KeystoreCall → List Grant × LocalNetwork
  | createUser user => ([], (answer (client, .createUser user) network).2)
  | xCreateAddress user =>
    let answered := answer (client, .xCreateAddress user) network
    (grantOf .x user answered.1, answered.2)
  | pCreateAddress user =>
    let answered := answer (client, .pCreateAddress user) network
    (grantOf .p user answered.1, answered.2)

/-- **What calls hand out**, one after the other, whoever is asked. -/
def grants : List (LocalClient × KeystoreCall) → LocalNetwork → List Grant
  | [], _ => []
  | (client, call) :: rest, network =>
    let asked := call.ask client network
    asked.1 ++ grants rest asked.2

/-- What calls hand out on a lane. -/
def grantsOn (lane : Lane) (calls : List (LocalClient × KeystoreCall)) (network : LocalNetwork) :
    List Grant :=
  (grants calls network).filter (·.lane = lane)

variable {network : LocalNetwork} {lane : Lane}

/-- How many addresses the users of a network have. -/
def issued (network : LocalNetwork) : Lane → String → Nat := network.ledger.registry.issued

/-- An address that a ledger hands out is one that its network hands out. -/
theorem grantOf_cases {user : User} {action : LedgerAction String}
    (h : Ledger.HandsOut lane user action network.ledger) :
    (grantOf lane user (onLedger action network).1 = []
        ∧ (onLedger action network).2.issued = network.issued)
      ∨ grantOf lane user (onLedger action network).1
          = [⟨lane, user.name, addressOf lane user.name (network.issued lane user.name)⟩]
        ∧ (onLedger action network).2.issued = oneMore network.issued lane user.name := by
  unfold Ledger.HandsOut Ledger.Ends at h
  unfold onLedger
  rcases hrun : action.run.run network.ledger with ⟨⟨cause | cause⟩ | address, left⟩
    <;> rw [hrun] at h
  · exact Or.inl ⟨rfl, congrArg (fun ledger => ledger.registry.issued) h⟩
  · exact h.elim
  · obtain ⟨rfl, hissued⟩ := h
    exact Or.inr ⟨rfl, hissued⟩

/-- **What one call can hand out**: nothing, or the next address of one user on
one lane. -/
theorem KeystoreCall.ask_cases (client : LocalClient) (call : KeystoreCall)
    (network : LocalNetwork) :
    ((call.ask client network).1 = [] ∧ (call.ask client network).2.issued = network.issued)
      ∨ ∃ lane name,
        (call.ask client network).1
            = [⟨lane, name, addressOf lane name (network.issued lane name)⟩]
          ∧ (call.ask client network).2.issued = oneMore network.issued lane name := by
  cases call with
  | createUser user => exact Or.inl ⟨rfl, Ledger.issued_createUser⟩
  | xCreateAddress user =>
    have hgrant := grantOf_cases (Ledger.handsOut_xCreateAddress user network.ledger)
    exact hgrant.imp_right fun h => ⟨.x, user.name, h⟩
  | pCreateAddress user =>
    have hgrant := grantOf_cases (Ledger.handsOut_pCreateAddress user network.ledger)
    exact hgrant.imp_right fun h => ⟨.p, user.name, h⟩

/-- **What is handed out** is told by whom it is handed to: each address is the next
one of its user. -/
theorem grantsOn_eq (calls : List (LocalClient × KeystoreCall)) (network : LocalNetwork) :
    grantsOn lane calls network
      = (numbered (network.issued lane) ((grantsOn lane calls network).map Grant.name)).map
        fun entry => ⟨lane, entry.1, addressOf lane entry.1 entry.2⟩ := by
  induction calls generalizing network with
  | nil => rfl
  | cons call rest ih =>
    obtain ⟨client, call⟩ := call
    have hgrants : grantsOn lane ((client, call) :: rest) network
        = (call.ask client network).1.filter (·.lane = lane)
          ++ grantsOn lane rest (call.ask client network).2 := List.filter_append ..
    have hrest := ih (call.ask client network).2
    obtain ⟨hnone, hissued⟩ | ⟨other, name, hone, hissued⟩ := call.ask_cases client network
    · rw [hissued] at hrest
      rwa [hgrants, hnone, List.filter_nil, List.nil_append]
    · rw [hissued] at hrest
      by_cases hlane : other = lane
      · subst hlane
        rw [oneMore, Function.update_self] at hrest
        rw [hgrants, hone, List.filter_cons_of_pos (by simp), List.filter_nil,
          List.singleton_append, List.map_cons, numbered, List.map_cons, ← hrest]
      · rw [oneMore, Function.update_of_ne (Ne.symm hlane)] at hrest
        rwa [hgrants, hone, List.filter_cons_of_neg (by simpa using hlane), List.filter_nil,
          List.nil_append]

section FromBeginning

variable (base : LocalNetwork) (genesis : Genesis) (fee : Amount)
  (calls : List (LocalClient × KeystoreCall)) (lane : Lane)

/-- In the beginning nobody has an address. -/
theorem grantsOn_ofGenesis :
    let granted := grantsOn lane calls { base with ledger := Ledger.ofGenesis genesis fee }
    granted = (numbered (fun _ => 0) (granted.map Grant.name)).map
      fun entry => ⟨lane, entry.1, addressOf lane entry.1 entry.2⟩ := by
  intro granted
  have hnone : ({ base with ledger := Ledger.ofGenesis genesis fee } : LocalNetwork).issued lane
      = fun _ => 0 := by
    cases lane <;> rfl
  have heq : granted = _ := grantsOn_eq calls _
  rwa [hnone] at heq

/-- The addresses that are handed out are those of the names that get them. -/
theorem map_address_grantsOn :
    let granted := grantsOn lane calls { base with ledger := Ledger.ofGenesis genesis fee }
    granted.map Grant.address = addressesOf lane (granted.map Grant.name) := by
  intro granted
  have hgranted : granted = _ := grantsOn_ofGenesis base genesis fee calls lane
  conv_lhs => rw [hgranted, List.map_map]
  rfl

/-- **Ten addresses for each user** are different ones, whatever the names. -/
theorem nodup_grantsOn_of_count_le_ten
    (h : ∀ name, ((grantsOn lane calls { base with ledger := Ledger.ofGenesis genesis fee }).map
      Grant.name).count name ≤ 10) :
    ((grantsOn lane calls { base with ledger := Ledger.ofGenesis genesis fee }).map
      Grant.address).Nodup := by
  rw [map_address_grantsOn]
  refine nodup_addressesOf_iff.2 fun name number hpos _ => ?_
  have hcount := h name
  omega

/-- **When the addresses are different ones that a ledger hands out**, from the
beginning on, to anybody who asks, as often as they like. Those of one user always
are. Those of all users on a lane are if and only if nobody whose name is another
one's and a number has an address while the other one has more than ten times that
number of them. -/
theorem addresses_distinct_iff :
    let granted := grantsOn lane calls { base with ledger := Ledger.ofGenesis genesis fee }
    let names := granted.map Grant.name
    (∀ name, ((granted.filter (·.name = name)).map Grant.address).Nodup)
      ∧ ((granted.map Grant.address).Nodup
        ↔ ∀ name number, 0 < number → name ++ toString number ∈ names →
          names.count name ≤ 10 * number) := by
  intro granted names
  have hgranted : granted = (numbered (fun _ => 0) names).map
      fun entry => ⟨lane, entry.1, addressOf lane entry.1 entry.2⟩ :=
    grantsOn_ofGenesis base genesis fee calls lane
  refine ⟨fun name => ?_, ?_⟩
  · rw [hgranted, List.filter_map, List.map_map,
      List.nodup_map_iff_inj_on (nodup_numbered.filter _)]
    rintro ⟨first, i⟩ hi ⟨second, j⟩ hj hsame
    obtain rfl : first = name := by simpa using (List.mem_filter.1 hi).2
    obtain rfl : second = first := by simpa using (List.mem_filter.1 hj).2
    exact Prod.ext rfl (append_toString_injective _ (addressOf_eq_iff.1 hsame))
  · have haddresses : granted.map Grant.address = addressesOf lane names :=
      map_address_grantsOn base genesis fee calls lane
    rw [haddresses]
    exact nodup_addressesOf_iff

end FromBeginning

/-- Two users, of whom one asks for eleven addresses. -/
def namesakes : List (LocalClient × KeystoreCall) :=
  [(guide, .createUser ⟨"a", ""⟩), (guide, .createUser ⟨"a1", ""⟩)]
    ++ List.replicate 11 (guide, .xCreateAddress ⟨"a", ""⟩)
    ++ [(guide, .xCreateAddress ⟨"a1", ""⟩)]

/-- **Two users can have one address**: the eleventh of `a` is the first of
`a1`. -/
theorem addresses_shared :
    let granted := grantsOn .x namesakes (ofGenesis bareGenesis 10)
    granted[10]? = some ⟨.x, "a", "X-local1a10"⟩
      ∧ granted[11]? = some ⟨.x, "a1", "X-local1a10"⟩
      ∧ ¬ (granted.map Grant.address).Nodup := by
  decide +kernel

end LocalNetwork

end LedgerNet
