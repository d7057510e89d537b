import LedgerNet.Container.WordSubnet
import Mathlib.Data.Nat.Bitwise

/-!
# Blocks of addresses

An address has 32 bits, the first one on top. A subnet is a block: the
addresses that agree with its own on some first bits. Its own address has
zeros after them, so the block is a run of addresses that begins with it
(`Subnet.IsBlock.holds_iff`), and the offsets in this run are what addresses
are handed out by.

The mask that is put on an address keeps its first bits and no other. That is
a division by the size of the block and a multiplication with it
(`and_ones_shifted`), for every number of bits but zero, where the mask would
have to be shifted by all 32 places.
-/

namespace LedgerNet

namespace Ipv4

/-- **A bit of an address**, counted from the first one. -/
def bit (ip : Ipv4) (i : Nat) : Bool := ip.value.toNat.testBit (31 - i)

/-- Addresses that are the same number are the same. -/
theorem ext_toNat {a b : Ipv4} (h : a.value.toNat = b.value.toNat) : a = b :=
  congrArg Ipv4.mk (UInt32.toNat_inj.1 h)

/-- Addresses with the same bits are the same. -/
theorem ext_bit {a b : Ipv4} (h : ∀ i < 32, a.bit i = b.bit i) : a = b := by
  refine ext_toNat (Nat.eq_of_testBit_eq fun j => ?_)
  rcases Nat.lt_or_ge j 32 with hj | hj
  · have hbit := h (31 - j) (by omega)
    unfold bit at hbit
    rwa [show 31 - (31 - j) = j by omega] at hbit
  · have hpow : 2 ^ 32 ≤ 2 ^ j := Nat.pow_le_pow_right (by decide) hj
    rw [Nat.testBit_lt_two_pow (Nat.lt_of_lt_of_le a.value.toNat_lt hpow),
      Nat.testBit_lt_two_pow (Nat.lt_of_lt_of_le b.value.toNat_lt hpow)]

end Ipv4

/-! ## The run of a block -/

namespace Subnet

/-- **An address lies in a subnet** if it agrees with it on the first bits. -/
def Holds (subnet : Subnet) (ip : Ipv4) : Prop :=
  ∀ i < subnet.bits, ip.bit i = subnet.base.bit i

/-- How many addresses a subnet has. -/
def size (subnet : Subnet) : Nat := 2 ^ (32 - subnet.bits)

/-- The first address of a block, as a number. -/
theorem toNat_blockBase (ip : Ipv4) (bits : Nat) :
    (blockBase ip bits).value.toNat = ip.value.toNat / 2 ^ (32 - bits) * 2 ^ (32 - bits) := by
  have hle := Nat.div_mul_le_self ip.value.toNat (2 ^ (32 - bits))
  exact UInt32.toNat_ofNat_of_lt' (Nat.lt_of_le_of_lt hle ip.value.toNat_lt)

/-- **The first address of a block** has the first bits of each address in it,
and zeros after them. -/
theorem bit_blockBase (ip : Ipv4) {bits i : Nat} (hbits : bits ≤ 32) (hi : i < 32) :
    (blockBase ip bits).bit i = (decide (i < bits) && ip.bit i) := by
  unfold Ipv4.bit
  rw [toNat_blockBase, Nat.testBit_mul_two_pow, Nat.testBit_div_two_pow]
  by_cases h : i < bits
  · rw [decide_eq_true h, decide_eq_true (show 32 - bits ≤ 31 - i by omega),
      Nat.sub_add_cancel (show 32 - bits ≤ 31 - i by omega)]
  · rw [decide_eq_false h, decide_eq_false (show ¬ 32 - bits ≤ 31 - i by omega)]
    rfl

/-- **Two addresses have the same block** of some first bits if they agree on
these. -/
theorem blockBase_eq_iff {a b : Ipv4} {bits : Nat} (hbits : bits ≤ 32) :
    blockBase a bits = blockBase b bits ↔ ∀ i < bits, a.bit i = b.bit i := by
  constructor
  · intro heq i hi
    have hbit : (blockBase a bits).bit i = (blockBase b bits).bit i := by rw [heq]
    rwa [bit_blockBase _ hbits (by omega), bit_blockBase _ hbits (by omega), decide_eq_true hi,
      Bool.true_and, Bool.true_and] at hbit
  · intro hagree
    refine Ipv4.ext_bit fun i hi => ?_
    rw [bit_blockBase _ hbits hi, bit_blockBase _ hbits hi]
    by_cases hlt : i < bits
    · rw [hagree i hlt]
    · rw [decide_eq_false hlt, Bool.false_and, Bool.false_and]

/-- **A subnet is a block**: it leaves room for the network, the gateway, a
container and broadcasts, it is not all there is, and its address has zeros
after the first bits. -/
structure IsBlock (subnet : Subnet) : Prop where
  one_le : 1 ≤ subnet.bits
  le_thirty : subnet.bits ≤ 30
  aligned : blockBase subnet.base subnet.bits = subnet.base

/-- The block around an address. -/
theorem isBlock_blockBase (ip : Ipv4) {bits : Nat} (hone : 1 ≤ bits) (hthirty : bits ≤ 30) :
    IsBlock ⟨blockBase ip bits, bits⟩ := by
  refine ⟨hone, hthirty, Ipv4.ext_bit fun i hi => ?_⟩
  have hbits : bits ≤ 32 := by omega
  dsimp only
  rw [bit_blockBase _ hbits hi, bit_blockBase _ hbits hi, ← Bool.and_assoc, Bool.and_self]

namespace IsBlock

variable {subnet : Subnet} {ip : Ipv4} {offset : Nat} (h : subnet.IsBlock)
include h

theorem four_le_size : 4 ≤ subnet.size := by
  have hbits := h.le_thirty
  exact Nat.pow_le_pow_right (n := 2) (by decide) (show 2 ≤ 32 - subnet.bits by omega)

theorem size_le : subnet.size ≤ 2 ^ 31 := by
  have hbits := h.one_le
  exact Nat.pow_le_pow_right (by decide) (show 32 - subnet.bits ≤ 31 by omega)

/-- The size divides the first address. -/
theorem exists_base_eq : ∃ k, subnet.base.value.toNat = k * subnet.size := by
  refine ⟨subnet.base.value.toNat / subnet.size, ?_⟩
  unfold size
  rw [← toNat_blockBase, h.aligned]

/-- **A block ends where all addresses end, or before.** -/
theorem base_add_size_le : subnet.base.value.toNat + subnet.size ≤ 2 ^ 32 := by
  obtain ⟨k, hk⟩ := h.exists_base_eq
  have hall : 2 ^ 32 = 2 ^ subnet.bits * subnet.size := by
    unfold size
    rw [← Nat.pow_add, Nat.add_sub_cancel' (by have := h.le_thirty; omega)]
  have hlt := subnet.base.value.toNat_lt
  rw [hk, hall] at hlt
  rw [hk, hall, ← Nat.succ_mul]
  exact Nat.mul_le_mul_right _ (Nat.lt_of_mul_lt_mul_right hlt)

/-- An address at an offset, as a number. -/
theorem toNat_address (hoffset : offset < subnet.size) :
    (subnet.address offset).value.toNat = subnet.base.value.toNat + offset := by
  have hend := h.base_add_size_le
  exact UInt32.toNat_ofNat_of_lt' (show _ < 2 ^ 32 by omega)

/-- An address lies in a block if the block around it is this one. -/
theorem holds_iff_blockBase_eq : subnet.Holds ip ↔ blockBase ip subnet.bits = subnet.base := by
  have hbits : subnet.bits ≤ 32 := by have := h.le_thirty; omega
  conv_rhs => rw [← h.aligned]
  exact (blockBase_eq_iff hbits).symm

/-- **What lies in a block**: the addresses from the first one on, as many as
its size says. -/
theorem holds_iff : subnet.Holds ip ↔ ∃ offset < subnet.size, ip = subnet.address offset := by
  have hpos : 0 < subnet.size := Nat.lt_of_lt_of_le (by decide) h.four_le_size
  rw [h.holds_iff_blockBase_eq]
  constructor
  · intro heq
    have hbase := toNat_blockBase ip subnet.bits
    rw [heq] at hbase
    have hlt := Nat.mod_lt ip.value.toNat hpos
    refine ⟨ip.value.toNat % subnet.size, hlt, Ipv4.ext_toNat ?_⟩
    rw [h.toNat_address hlt, hbase]
    exact (Nat.div_add_mod' _ _).symm
  · rintro ⟨offset, hoffset, rfl⟩
    obtain ⟨k, hk⟩ := h.exists_base_eq
    have hquotient : (subnet.address offset).value.toNat / subnet.size = k := by
      rw [h.toNat_address hoffset, hk, Nat.add_comm, Nat.add_mul_div_right _ _ hpos,
        Nat.div_eq_of_lt hoffset, Nat.zero_add]
    refine Ipv4.ext_toNat ?_
    rw [toNat_blockBase]
    exact (congrArg (· * subnet.size) hquotient).trans hk.symm

end IsBlock

end Subnet

/-! ## The mask -/

/-- **Ones that are shifted to the left keep the first bits of a word.** -/
theorem and_ones_shifted {n : Nat} (hn : n < 2 ^ 32) (k : Nat) :
    n &&& ((2 ^ 32 - 1) * 2 ^ k % 2 ^ 32) = n / 2 ^ k * 2 ^ k := by
  refine Nat.eq_of_testBit_eq fun j => ?_
  rw [Nat.testBit_and, Nat.testBit_mod_two_pow, Nat.testBit_mul_two_pow,
    Nat.testBit_two_pow_sub_one, Nat.testBit_mul_two_pow, Nat.testBit_div_two_pow]
  rcases Nat.lt_or_ge j 32 with hj | hj
  · rw [decide_eq_true hj, decide_eq_true (show j - k < 32 by omega), Bool.true_and, Bool.and_true]
    by_cases hk : k ≤ j
    · rw [decide_eq_true hk, Bool.and_true, Bool.true_and, Nat.sub_add_cancel hk]
    · rw [decide_eq_false hk, Bool.and_false, Bool.false_and]
  · have hpow : 2 ^ 32 ≤ 2 ^ j := Nat.pow_le_pow_right (by decide) hj
    rw [Nat.testBit_lt_two_pow (Nat.lt_of_lt_of_le hn hpow), Bool.false_and]
    by_cases hk : k ≤ j
    · rw [Nat.sub_add_cancel hk, Nat.testBit_lt_two_pow (Nat.lt_of_lt_of_le hn hpow),
        Bool.and_false]
    · rw [decide_eq_false hk, Bool.false_and]

namespace WordSubnet

variable {bits : UInt8}

/-- There are bits after the first ones, or none. -/
theorem hostBits_of_le (h : bits.toNat ≤ 32) :
    ∃ places, hostBits bits = .ok places ∧ places.toNat = 32 - bits.toNat := by
  have hwidth : bits.toUInt32.toNat = bits.toNat := UInt8.toNat_toUInt32 bits
  obtain ⟨hminus, hn⟩ := Word.minus_of_le (a := 32) (b := bits.toUInt32) (hwidth ▸ h)
  exact ⟨_, hminus, by rw [hn, hwidth]; rfl⟩

/-- **The mask of at least one bit** keeps the first bits of an address. -/
theorem mask_of_pos (hpos : 1 ≤ bits.toNat) (hle : bits.toNat ≤ 32) :
    ∃ word, mask bits = .ok word ∧ ∀ ip : Ipv4,
      (⟨ip.value &&& word⟩ : Ipv4) = Subnet.blockBase ip bits.toNat := by
  obtain ⟨places, hplaces, hn⟩ := hostBits_of_le hle
  have hlt : places.toNat < 32 := by omega
  obtain ⟨hshifted, hword⟩ := Word.shiftedLeft_of_lt (a := 0xffffffff) hlt
  refine ⟨0xffffffff <<< places, ?_, fun ip => Ipv4.ext_toNat ?_⟩
  · unfold mask
    rw [hplaces]
    exact hshifted
  · rw [UInt32.toNat_and, hword, Subnet.toNat_blockBase, hn]
    exact and_ones_shifted ip.value.toNat_lt _

end WordSubnet

end LedgerNet
