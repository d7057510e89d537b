import LedgerNet.Proofs.Definition.Preset
import LedgerNet.Proofs.LocalNetwork.Failing
import LedgerNet.Proofs.LocalNetwork.Leaving
import LedgerNet.Proofs.LocalNetwork.Staking

/-!
# Any stakers in any order

Some nodes that are registered on one ledger stake, each once, as validators
or as delegators, with amounts of their own. The order is any, and a list of
stakers is such an order. What one staker does leaves alone what every other
node has (`Untouched`), since the first addresses of users with different
names are different ones, and so the next one finds its own as it was in the
beginning. The clock is what they do share: a stake is waited for until it has
begun, so a staker starts later the more of them there were before
(`begunAfter`). Whether the clock has room for its times is the one thing that
decides about a staker that is ready.
-/

namespace LedgerNet

/-! ## Registered nodes -/

namespace Ledger

/-- **Users with different names have different first addresses.** -/
theorem newAddress_injective {lane : Lane} {first second : User}
    (h : newAddress lane first [] = newAddress lane second []) : first.name = second.name :=
  (String.append_right_inj _).1 ((String.append_left_inj _).1 h)

/-- No address is one of both lanes. -/
theorem newAddress_x_ne_p (first second : User) (addresses others : List String) :
    newAddress .x first addresses ≠ newAddress .p second others := by
  refine ne_of_head?_ne ?_
  simp [newAddress, Lane.letter, String.toList_append]

end Ledger

namespace Participant

variable {node other : Participant LocalClient} {amounts : StakeAmounts} {registry : Registry}
  {ledger middle left : Ledger}

/-- **A node is registered**: the ledger knows it, and its addresses are the
ones that its user was given first. -/
structure Registered (node : Participant LocalClient) (registry : Registry) : Prop
    extends node.KnownTo registry where
  xAddress_eq : node.xAddress = Ledger.newAddress .x node.user []
  pAddress_eq : node.pAddress = Ledger.newAddress .p node.user []

/-- **What a node has is as it was**, on every lane and on the way to it, and
so is what its platform address had before. -/
structure Untouched (node : Participant LocalClient) (ledger left : Ledger) : Prop where
  x_eq : left.xBalance node.xAddress = ledger.xBalance node.xAddress
  p_eq : left.pBalance node.pAddress = ledger.pBalance node.pAddress
  c_eq : left.cBalance = ledger.cBalance
  pending_eq : left.pending.getD node.pAddress 0 = ledger.pending.getD node.pAddress 0
  past_eq : left.past node.pAddress = ledger.past node.pAddress

@[refl]
theorem Untouched.refl : node.Untouched ledger ledger := ⟨rfl, rfl, rfl, rfl, rfl⟩

theorem Untouched.trans (h : node.Untouched ledger middle) (h' : node.Untouched middle left) :
    node.Untouched ledger left where
  x_eq := h'.x_eq.trans h.x_eq
  p_eq := h'.p_eq.trans h.p_eq
  c_eq := h'.c_eq.trans h.c_eq
  pending_eq := h'.pending_eq.trans h.pending_eq
  past_eq := h'.past_eq.trans h.past_eq

/-- **The addresses of two registered nodes** with different users. -/
theorem Registered.addresses_ne (h : node.Registered registry) (hother : other.Registered registry)
    (hne : other.user.name ≠ node.user.name) :
    other.xAddress ≠ node.xAddress ∧ other.pAddress ≠ node.pAddress
      ∧ other.pAddress ≠ node.xAddress := by
  rw [h.xAddress_eq, h.pAddress_eq, hother.xAddress_eq, hother.pAddress_eq]
  exact ⟨fun heq => hne (Ledger.newAddress_injective heq),
    fun heq => hne (Ledger.newAddress_injective heq),
    (Ledger.newAddress_x_ne_p _ _ _ _).symm⟩

namespace Staked

variable (h : node.Staked amounts ledger left)
include h

theorem registry_eq : left.registry = ledger.registry := congrArg Holdings.registry h.holdings_eq

theorem outlook_eq : left.outlook = ledger.outlook := congrArg Holdings.outlook h.holdings_eq

theorem fee_eq : left.fee = ledger.fee :=
  UInt64.toNat_inj.1 (congrArg Holdings.fee h.holdings_eq)

theorem x_eq : (left.xBalance node.xAddress).toNat
    = amounts.total.toNat - amounts.seed.toNat - 2 * amounts.fee.toNat :=
  (congrArg (fun held => Holdings.x held node.xAddress) h.holdings_eq).trans
    (Function.update_self _ _ _)

theorem p_eq : (left.pBalance node.pAddress).toNat
    = amounts.seed.toNat - amounts.stake.toNat :=
  (congrArg (fun held => Holdings.p held node.pAddress) h.holdings_eq).trans
    (Function.update_self _ _ _)

theorem x_of_ne {address : String} (hne : address ≠ node.xAddress) :
    left.xBalance address = ledger.xBalance address :=
  UInt64.toNat_inj.1 ((congrArg (fun held => Holdings.x held address) h.holdings_eq).trans
    (Function.update_of_ne hne _ _))

theorem p_of_ne {address : String} (hne : address ≠ node.pAddress) :
    left.pBalance address = ledger.pBalance address :=
  UInt64.toNat_inj.1 ((congrArg (fun held => Holdings.p held address) h.holdings_eq).trans
    (Function.update_of_ne hne _ _))

theorem c_eq : left.cBalance = ledger.cBalance := congrArg Holdings.c h.holdings_eq

theorem pending_eq (address : String) :
    left.pending.getD address 0 = ledger.pending.getD address 0 :=
  UInt64.toNat_inj.1 (congrArg (fun held => Holdings.pending held address) h.holdings_eq)

/-- The balances of the platform lane that a stake writes down. -/
theorem past_pAddress (hne : node.pAddress ≠ node.xAddress) :
    left.past node.pAddress
      = ledger.past node.pAddress ++ [amounts.seed, amounts.seed - amounts.stake] := by
  rw [h.past_eq]
  simp [pastOfStake, pastOfSeed, hne]

theorem past_of_ne {address : String} (hx : address ≠ node.xAddress)
    (hp : address ≠ node.pAddress) : left.past address = ledger.past address := by
  rw [h.past_eq]
  simp [pastOfStake, pastOfSeed, hx, hp]

/-- **A stake leaves alone what every other node has.** -/
theorem untouched (hnode : node.Registered ledger.registry)
    (hother : other.Registered ledger.registry) (hne : other.user.name ≠ node.user.name) :
    other.Untouched ledger left := by
  obtain ⟨hx, hp, hpx⟩ := hnode.addresses_ne hother hne
  exact ⟨h.x_of_ne hx, h.p_of_ne hp, h.c_eq, h.pending_eq _, h.past_of_ne hpx hp⟩

end Staked

end Participant

/-! ## Stakers -/

/-- **A node that stakes**, with its amounts and the validator it delegates to;
without one it becomes a validator itself. -/
structure Stakeholder where
  node : Participant LocalClient
  amounts : StakeAmounts
  validator? : Option String

namespace Stakeholder

variable (staker : Stakeholder)

/-- What a staker does. -/
def program : Attempt (Timed (Clients LocalClient)) StakingError Unit :=
  match staker.validator? with
  | none => staker.node.becomeValidator staker.amounts
  | some validator => staker.node.becomeDelegator staker.amounts validator

/-- For how long it stakes. -/
def period : Duration :=
  match staker.validator? with
  | none => staker.node.settings.schedule.validationPeriod
  | some _ => staker.node.settings.schedule.delegationPeriod

/-- **A staker is ready**: it is registered, its amounts are valid for the fee
of the ledger, it holds the total, and its platform address has never been
credited and awaits nothing. -/
structure Ready (ledger : Ledger) : Prop where
  registered : staker.node.Registered ledger.registry
  fee : staker.amounts.fee = ledger.fee
  valid : staker.amounts.validateStake = .ok ()
  seed_pos : 0 < staker.amounts.seed
  total : ledger.xBalance staker.node.xAddress = staker.amounts.total
  empty : ledger.pBalance staker.node.pAddress = 0
  uncredited : ledger.past staker.node.pAddress = []
  nothingPending : ledger.pending.getD staker.node.pAddress 0 = 0

/-- **A staker has staked**: what it holds on each lane, both balances that its
platform address has had, and nothing on its way there. -/
structure HasStaked (ledger : Ledger) : Prop where
  x : (ledger.xBalance staker.node.xAddress).toNat = staker.amounts.total.toNat
    - staker.amounts.seed.toNat - 2 * staker.amounts.fee.toNat
  p : (ledger.pBalance staker.node.pAddress).toNat
    = staker.amounts.seed.toNat - staker.amounts.stake.toNat
  past : ledger.past staker.node.pAddress
    = [staker.amounts.seed, staker.amounts.seed - staker.amounts.stake]
  nothingPending : ledger.pending.getD staker.node.pAddress 0 = 0

variable {staker} {ledger left : Ledger}

namespace Ready

variable (h : staker.Ready ledger)
include h

theorem served (hquiet : ledger.outlook = .quiet) :
    staker.node.Served staker.amounts ledger.holdings :=
  ⟨h.registered.toKnownTo, hquiet, congrArg UInt64.toNat h.fee.symm⟩

theorem seed_toNat_pos : 0 < staker.amounts.seed.toNat := UInt64.lt_iff_toNat_lt.1 h.seed_pos

theorem x_eq : ledger.holdings.x staker.node.xAddress = staker.amounts.total.toNat :=
  congrArg UInt64.toNat h.total

theorem p_eq : ledger.holdings.p staker.node.pAddress = 0 := congrArg UInt64.toNat h.empty

theorem pending_eq : ledger.holdings.pending staker.node.pAddress = 0 :=
  congrArg UInt64.toNat h.nothingPending

end Ready

/-- A staker that nobody touches stays ready. -/
theorem Ready.untouched (h : staker.Ready ledger) (hregistry : left.registry = ledger.registry)
    (hfee : left.fee = ledger.fee) (hleft : staker.node.Untouched ledger left) :
    staker.Ready left where
  registered := hregistry ▸ h.registered
  fee := h.fee.trans hfee.symm
  valid := h.valid
  seed_pos := h.seed_pos
  total := hleft.x_eq.trans h.total
  empty := hleft.p_eq.trans h.empty
  uncredited := hleft.past_eq.trans h.uncredited
  nothingPending := hleft.pending_eq.trans h.nothingPending

/-- A staker that nobody touches keeps what it has. -/
theorem HasStaked.untouched (h : staker.HasStaked ledger)
    (hleft : staker.node.Untouched ledger left) : staker.HasStaked left where
  x := hleft.x_eq ▸ h.x
  p := hleft.p_eq ▸ h.p
  past := hleft.past_eq.trans h.past
  nothingPending := hleft.pending_eq.trans h.nothingPending

theorem Ready.hasStaked (h : staker.Ready ledger)
    (hstaked : staker.node.Staked staker.amounts ledger left) : staker.HasStaked left where
  x := hstaked.x_eq
  p := hstaked.p_eq
  past := by
    have hne : staker.node.pAddress ≠ staker.node.xAddress := by
      rw [h.registered.xAddress_eq, h.registered.pAddress_eq]
      exact (Ledger.newAddress_x_ne_p _ _ _ _).symm
    rw [hstaked.past_pAddress hne, h.uncredited, List.nil_append]
  nothingPending := (hstaked.pending_eq _).trans h.nothingPending

end Stakeholder

namespace LocalNetwork

variable {epoch : Duration} {now : Duration} {ledger : Ledger}

/-- **What a staker that succeeds leaves**, whatever it began with. -/
theorem leaves_staker {base : LocalNetwork} {staker : Stakeholder}
    (hknown : staker.node.KnownTo ledger.registry) (hsettled : ledger.outlook.Settled)
    (hfee : ledger.holdings.fee = staker.amounts.fee.toNat) :
    Leaves epoch base staker.program ledger fun _ left =>
      staker.node.Staked staker.amounts ledger left := by
  obtain ⟨node, amounts, validator?⟩ := staker
  cases validator? with
  | none => exact leaves_becomeValidator hknown hsettled hfee
  | some validator => exact leaves_becomeDelegator hknown hsettled hfee

/-- A staker that is ready succeeds when its stake has begun. -/
theorem drives_staker {base : LocalNetwork} {staker : Stakeholder}
    (hquiet : ledger.outlook = .quiet) (hready : staker.Ready ledger)
    (hfits : staker.node.settings.schedule.Fits staker.period epoch now) :
    Drives epoch base staker.program now ledger.holdings fun _ later _ =>
      later = staker.node.settings.schedule.begun now := by
  have hserved := hready.served hquiet
  obtain ⟨node, amounts, validator?⟩ := staker
  cases validator? with
  | none =>
    exact (drives_becomeValidator hserved hready.valid hready.seed_toNat_pos hready.x_eq
      hready.p_eq hready.pending_eq hfits).mono fun _ _ _ h => h.1
  | some validator =>
    exact (drives_becomeDelegator hserved hready.valid hready.seed_toNat_pos hready.x_eq
      hready.p_eq hready.pending_eq hfits).mono fun _ _ _ h => h.1

/-- A staker that is ready fails if its times are too long. -/
theorem fails_staker {base : LocalNetwork} {staker : Stakeholder}
    (hquiet : ledger.outlook = .quiet) (hready : staker.Ready ledger)
    (hlong : ¬ staker.node.settings.schedule.Fits staker.period epoch now) :
    Fails epoch base staker.program now ledger.holdings fun failure _ _ => failure.IsOverflow := by
  have hserved := hready.served hquiet
  obtain ⟨node, amounts, validator?⟩ := staker
  cases validator? with
  | none =>
    exact fails_becomeValidator hserved hready.valid hready.seed_toNat_pos hready.x_eq
      hready.p_eq hready.pending_eq hlong
  | some validator =>
    exact fails_becomeDelegator hserved hready.valid hready.seed_toNat_pos hready.x_eq
      hready.p_eq hready.pending_eq hlong

/-- **A staker that is ready stakes**, and the run ends when the stake has
begun. -/
theorem runOn_staker (base : LocalNetwork) {staker : Stakeholder} (hquiet : ledger.outlook = .quiet)
    (hready : staker.Ready ledger)
    (hfits : staker.node.settings.schedule.Fits staker.period epoch now) :
    ∃ left, staker.program.runOn (Timeline.handler answer) (moment epoch base now ledger)
        = (.ok (), moment epoch base (staker.node.settings.schedule.begun now) left)
      ∧ staker.node.Staked staker.amounts ledger left := by
  have hserved := hready.served hquiet
  -- the run succeeds, and what a success leaves is known
  obtain ⟨_, later, left, hrun, rfl⟩ := drives_staker hquiet hready hfits ledger rfl
  obtain ⟨_, left', hmoment, hstaked⟩ :=
    leaves_staker hserved.known (.of_quiet hquiet) hserved.fee now _ _ hrun
  obtain rfl : left = left' := congrArg (fun t => t.world.ledger) hmoment
  exact ⟨left, hrun, hstaked⟩

/-- **Its times are all that can stop a staker that is ready.** -/
theorem runOn_staker_eq_ok_iff (base : LocalNetwork) {staker : Stakeholder}
    (hquiet : ledger.outlook = .quiet) (hready : staker.Ready ledger) :
    (staker.program.runOn (Timeline.handler answer) (moment epoch base now ledger)).1 = .ok ()
      ↔ staker.node.settings.schedule.Fits staker.period epoch now := by
  refine ⟨fun hok => by_contra fun hlong => ?_, fun hfits => ?_⟩
  · obtain ⟨failure, _, _, hrun, -⟩ := fails_staker hquiet hready hlong ledger rfl
    rw [hrun] at hok
    cases hok
  · obtain ⟨left, hrun, -⟩ := runOn_staker base hquiet hready hfits
    rw [hrun]

/-! ## One after the other -/

/-- **Stakers one after the other**, whatever becomes of each. -/
def stakeAll (stakers : List Stakeholder) (t : Timeline LocalNetwork) : Timeline LocalNetwork :=
  stakers.foldl (fun t staker => (staker.program.runOn (Timeline.handler answer) t).2) t

/-- When the last of some stakes has begun. -/
def begunAfter (stakers : List Stakeholder) (now : Duration) : Duration :=
  stakers.foldl (fun now staker => staker.node.settings.schedule.begun now) now

variable {staker : Stakeholder} {stakers : List Stakeholder}

theorem stakeAll_cons {t t' : Timeline LocalNetwork} {outcome : Outcome StakingError Unit}
    (hrun : staker.program.runOn (Timeline.handler answer) t = (outcome, t')) :
    stakeAll (staker :: stakers) t = stakeAll stakers t' := by
  rw [stakeAll, List.foldl_cons, hrun, stakeAll]

theorem begunAfter_cons : begunAfter (staker :: stakers) now
    = begunAfter stakers (staker.node.settings.schedule.begun now) := by
  rw [begunAfter, List.foldl_cons, begunAfter]

/-- The clock has room for the times of every stake, at the point in time at
which it is asked for. -/
def FitAll (epoch : Duration) : List Stakeholder → Duration → Prop
  | [], _ => True
  | staker :: stakers, now => staker.node.settings.schedule.Fits staker.period epoch now
    ∧ FitAll epoch stakers (staker.node.settings.schedule.begun now)

/-- **Stakers can stake in their order**: nothing is in store for transactions,
each of them is ready, they are different users, and their times do not
overflow. -/
structure CanStake (stakers : List Stakeholder) (epoch now : Duration) (ledger : Ledger) :
    Prop where
  quiet : ledger.outlook = .quiet
  ready : ∀ staker ∈ stakers, staker.Ready ledger
  distinct : (stakers.map fun staker => staker.node.user.name).Nodup
  fits : FitAll epoch stakers now

/-- **The first one stakes**, and the others still can. -/
theorem CanStake.step (base : LocalNetwork) (h : CanStake (staker :: stakers) epoch now ledger) :
    ∃ left, staker.program.runOn (Timeline.handler answer) (moment epoch base now ledger)
        = (.ok (), moment epoch base (staker.node.settings.schedule.begun now) left)
      ∧ staker.node.Staked staker.amounts ledger left
      ∧ CanStake stakers epoch (staker.node.settings.schedule.begun now) left := by
  have hready := h.ready staker List.mem_cons_self
  obtain ⟨left, hrun, hstaked⟩ := runOn_staker base h.quiet hready h.fits.1
  obtain ⟨hnew, hdistinct⟩ := List.nodup_cons.1 h.distinct
  refine ⟨left, hrun, hstaked, hstaked.outlook_eq.trans h.quiet, fun other hother => ?_, hdistinct,
    h.fits.2⟩
  have hotherReady := h.ready other (List.mem_cons_of_mem _ hother)
  refine hotherReady.untouched hstaked.registry_eq hstaked.fee_eq
    (hstaked.untouched hready.registered hotherReady.registered ?_)
  exact fun heq => hnew (List.mem_map.2 ⟨other, hother, heq⟩)

/-- **After some of them the others still can**, what was staked stays staked,
and nodes that were not among them have what they had. -/
theorem CanStake.run (base : LocalNetwork) (before : List Stakeholder)
    (h : CanStake (before ++ stakers) epoch now ledger) :
    ∃ left, stakeAll before (moment epoch base now ledger)
        = moment epoch base (begunAfter before now) left
      ∧ left.registry = ledger.registry
      ∧ CanStake stakers epoch (begunAfter before now) left
      ∧ (∀ staker ∈ before, staker.HasStaked left)
      ∧ ∀ other : Participant LocalClient, other.Registered ledger.registry →
          (∀ staker ∈ before, other.user.name ≠ staker.node.user.name) →
          other.Untouched ledger left := by
  induction before generalizing now ledger with
  | nil => exact ⟨ledger, rfl, rfl, h, by simp, fun _ _ _ => .refl⟩
  | cons staker before ih =>
    obtain ⟨middle, hrun, hstaked, hrest⟩ := h.step base
    have hready := h.ready staker List.mem_cons_self
    obtain ⟨left, hall, hregistry, hcan, hhave, huntouched⟩ := ih hrest
    rw [begunAfter_cons]
    have hothers {other : Participant LocalClient} (hother : other.Registered ledger.registry) :
        other.Registered middle.registry := hstaked.registry_eq ▸ hother
    refine ⟨left, (stakeAll_cons hrun).trans hall, hregistry.trans hstaked.registry_eq, hcan, ?_,
      fun other hother hne => ?_⟩
    · -- the first one is not among the ones after it
      have hnew := (List.nodup_cons.1 h.distinct).1
      refine List.forall_mem_cons.2 ⟨?_, hhave⟩
      refine (hready.hasStaked hstaked).untouched
        (huntouched staker.node (hothers hready.registered) fun next hnext heq => ?_)
      exact hnew (List.mem_map.2 ⟨next, List.mem_append_left _ hnext, heq.symm⟩)
    · obtain ⟨hhead, htail⟩ := List.forall_mem_cons.1 hne
      exact (hstaked.untouched hready.registered hother hhead).trans
        (huntouched other (hothers hother) htail)

/-- **Any stakers in any order**: each of them succeeds when its turn comes,
whoever came before it. It then has on each lane what is left of its total and
of its seed, the two balances of the platform address are on record, nothing is
on its way there, and every other registered node has what it had. In the end
all of them have staked. -/
theorem stakes_in_any_order (network : LocalNetwork) (stakers : List Stakeholder)
    (h : CanStake stakers epoch now network.ledger) :
    (∀ before staker after, stakers = before ++ staker :: after →
      ∃ ledger left,
        stakeAll before ⟨epoch, now, network⟩
            = moment epoch network (begunAfter before now) ledger
        ∧ staker.program.runOn (Timeline.handler answer)
              (moment epoch network (begunAfter before now) ledger)
            = (.ok (), moment epoch network (begunAfter (before ++ [staker]) now) left)
        ∧ staker.HasStaked left
        ∧ ∀ other : Participant LocalClient, other.Registered network.ledger.registry →
            other.user.name ≠ staker.node.user.name → other.Untouched ledger left)
    ∧ ∃ left, stakeAll stakers ⟨epoch, now, network⟩
          = moment epoch network (begunAfter stakers now) left
        ∧ ∀ staker ∈ stakers, staker.HasStaked left := by
  refine ⟨fun before staker after hsplit => ?_, ?_⟩
  · subst hsplit
    obtain ⟨ledger, hbefore, hregistry, hcan, -, -⟩ := h.run network before
    have hready := hcan.ready staker List.mem_cons_self
    obtain ⟨left, hrun, hstaked, -⟩ := hcan.step network
    refine ⟨ledger, left, hbefore, ?_, hready.hasStaked hstaked, fun other hother hne => ?_⟩
    · rw [hrun, begunAfter, begunAfter, List.foldl_append, List.foldl_cons, List.foldl_nil]
    · exact hstaked.untouched hready.registered (hregistry ▸ hother) hne
  · rw [← List.append_nil stakers] at h
    obtain ⟨left, hall, -, -, hhave, -⟩ := h.run network stakers
    exact ⟨left, hall, hhave⟩

/-! ### Two stakers -/

/-- The settings of the local network, for a period of validation. -/
def validatingFor (period : Duration) : StakingSettings :=
  { stakingSettings with
    schedule := { stakingSettings.schedule with validationPeriod := period } }

/-- A validator that bonds the whole seed. -/
def founder (period : Duration) : Stakeholder where
  node := TrackedNode.enrolled ⟨"a", .v4 (.ofOctets 10 0 0 2), ⟨"a", .v4 (.ofOctets 10 0 0 2)⟩⟩
    ⟨"ann", "pw"⟩ (validatingFor period)
  amounts := ⟨1000, 500, 500, 10⟩
  validator? := none

/-- A delegator that spends its total on the seed and the fees. -/
def follower : Stakeholder where
  node := TrackedNode.enrolled ⟨"b", .v4 (.ofOctets 10 0 0 3), ⟨"b", .v4 (.ofOctets 10 0 0 3)⟩⟩
    ⟨"bob", "pw"⟩ stakingSettings
  amounts := ⟨70, 50, 20, 10⟩
  validator? := some "NodeID-a"

/-- A network on which both are registered and hold their totals. -/
def registeredPair : LocalNetwork :=
  { LocalNetwork.ofGenesis Genesis.localNet 10 with
    ledger := { Ledger.ofGenesis Genesis.localNet 10 with
      users := ["ann", "bob"]
      xAddresses := ⟨[("ann", ["X-local1ann0"]), ("bob", ["X-local1bob0"])]⟩
      pAddresses := ⟨[("ann", ["P-local1ann0"]), ("bob", ["P-local1bob0"])]⟩
      x := ⟨[("X-local1ann0", 1000), ("X-local1bob0", 70)]⟩ } }

theorem founder_ready (period : Duration) : (founder period).Ready registeredPair.ledger :=
  ⟨⟨⟨List.mem_cons_self, rfl, rfl⟩, rfl, rfl⟩, rfl, rfl, show (0 : Amount) < 500 by decide,
    rfl, rfl, rfl, rfl⟩

theorem follower_ready : follower.Ready registeredPair.ledger :=
  ⟨⟨⟨by decide, rfl, rfl⟩, rfl, rfl⟩, rfl, rfl, by decide, rfl, rfl, rfl, rfl⟩

/-- The delegator goes first, and the validator stakes after it. -/
theorem stakes_in_any_order_pair :
    ∃ left, stakeAll [follower, founder (Duration.ofSeconds 86400)]
          ⟨Duration.ofSeconds 1700000000, ⟨0⟩, registeredPair⟩
        = moment (Duration.ofSeconds 1700000000) registeredPair
          (begunAfter [follower, founder (Duration.ofSeconds 86400)] ⟨0⟩) left
      ∧ ∀ staker ∈ [follower, founder (Duration.ofSeconds 86400)], staker.HasStaked left :=
  (stakes_in_any_order registeredPair [follower, founder (Duration.ofSeconds 86400)]
    ⟨rfl, by simp [founder_ready, follower_ready], by decide,
      ⟨by decide, by decide⟩, ⟨by decide, by decide⟩, trivial⟩).2

/-- A period that is as long as a duration can be ends beyond the clock, and
so a staker that is ready fails. -/
theorem founder_fails_overlong :
    registeredPair.ledger.outlook = .quiet
      ∧ (founder (Duration.ofSeconds (2 ^ 64 - 1))).Ready registeredPair.ledger
      ∧ ((founder (Duration.ofSeconds (2 ^ 64 - 1))).program.runOn (Timeline.handler answer)
          ⟨Duration.ofSeconds 1700000000, ⟨0⟩, registeredPair⟩).1 ≠ .ok () := by
  refine ⟨rfl, founder_ready _, fun hok => ?_⟩
  have hfits := (runOn_staker_eq_ok_iff registeredPair rfl (founder_ready _)).1 hok
  exact absurd hfits.finish (by decide)

end LocalNetwork

end LedgerNet
