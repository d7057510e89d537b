import LedgerNet.Container.Subnet
import LedgerNet.Number.Word

/-!
# Subnets in words

A subnet is kept as a word, its first address, and a byte, the number of bits
that the block agrees on. Everything about it is computed with words, and any
of these computations could overflow: the shift that makes the mask, the shift
and the difference that count the hosts, the sum that leads to the gateway or
to an address, and the step of the offset. Each of them says so here.

What such a subnet stands for is a subnet as others see it (`toSubnet`).
-/

namespace LedgerNet

/-- **A subnet in words.** -/
structure WordSubnet where
  /-- The first address of the block. -/
  base : Word
  /-- On how many bits the block agrees. -/
  bits : UInt8
  deriving DecidableEq, Repr

namespace WordSubnet

/-- The subnet that is meant. -/
def toSubnet (subnet : WordSubnet) : Subnet := ⟨⟨subnet.base⟩, subnet.bits.toNat⟩

/-- How many bits of an address are after the first ones. -/
def hostBits (bits : UInt8) : Checked Word := Word.minus 32 bits.toUInt32

/-- **The mask** that keeps the first bits of an address. -/
def mask (bits : UInt8) : Checked Word := do
  Word.shiftedLeft 0xffffffff (← hostBits bits)

/-- **Reading a subnet** of at most thirty bits: the mask is put on the
address. -/
def ofText (s : String) : Outcome SubnetError WordSubnet :=
  match Subnet.parts? s with
  | none => Outcome.failed (.invalid s)
  | some (address, number) =>
    let bits := UInt8.ofNat number
    if 30 < bits then Outcome.failed (.tooSmall bits.toNat)
    else Outcome.ofChecked ((mask bits).map fun mask => ⟨address.value &&& mask, bits⟩)

variable (subnet : WordSubnet)

/-- How many addresses the block has for hosts, the gateway included. -/
def hostCount : Checked Word := do
  Word.minus (← Word.shiftedLeft 1 (← hostBits subnet.bits)) 2

/-- The gateway of the containers. -/
def gateway : Checked Ipv4 := (Word.plus subnet.base 1).map Ipv4.mk

end WordSubnet

/-- **The addresses of a subnet that were not handed out yet**, in words. -/
structure WordPool where
  subnet : WordSubnet
  next : Word
  deriving DecidableEq, Repr

namespace WordPool

/-- Every address after the gateway. -/
def ofSubnet (subnet : WordSubnet) : WordPool := ⟨subnet, 2⟩

/-- **Asks for the next address**: the answer, and the pool after it. -/
def take (pool : WordPool) : Checked (Except SubnetError Ipv4 × WordPool) := do
  if (← pool.subnet.hostCount) < pool.next then
    return (.error (.exhausted pool.subnet.toSubnet), pool)
  else
    let address ← Word.plus pool.subnet.base pool.next
    let next ← Word.plus pool.next 1
    return (.ok ⟨address⟩, { pool with next })

/-- **Asks for a number of addresses**, one after the other: all answers, and
the pool after them. -/
def takeMany (pool : WordPool) : Nat → Checked (List (Except SubnetError Ipv4) × WordPool)
  | 0 => return ([], pool)
  | left + 1 => do
    let (answer, pool) ← pool.take
    let (answers, pool) ← pool.takeMany left
    return (answer :: answers, pool)

end WordPool

end LedgerNet
