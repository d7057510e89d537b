import LedgerNet.Environment.Basic
import LedgerNet.Net.Ip
import LedgerNet.Program.Failure
import LedgerNet.Text.Blank

/-!
# Subnets and their addresses

The containers of a run live in one subnet of version 4, a block of
addresses that agree on their first bits. The first address of the block is
its name, the second one is the gateway, the last one is for broadcasts;
what is between them goes to containers, one after the other and never
twice.

A block is written as its first address, a slash and the number of bits it
agrees on. At most thirty of them leave room for a container. A block that
agrees on no bit at all has more addresses than the arithmetic can count,
and to read one is a crash.
-/

namespace LedgerNet

/-- **A subnet of version 4.** -/
structure Subnet where
  /-- The first address of the block. -/
  base : Ipv4
  /-- On how many bits the block agrees. -/
  bits : Nat
  deriving DecidableEq, Repr

/-- **Why there is no subnet, or no address left in it.** -/
inductive SubnetError where
  | invalid (value : String)
  | tooSmall (bits : Nat)
  | exhausted (subnet : Subnet)
  deriving DecidableEq, Repr

namespace Subnet

/-- **The text of a subnet.** -/
def text (subnet : Subnet) : String := subnet.base.text ++ "/" ++ toString subnet.bits

/-- The most bits that leave room for a container. -/
def mostBits : Nat := 30

/-- The first address of the block around an address. -/
def blockBase (address : Ipv4) (bits : Nat) : Ipv4 :=
  let size := 2 ^ (32 - bits)
  ⟨UInt32.ofNat (address.value.toNat / size * size)⟩

/-- A text before its first slash and after it. -/
def splitSlash? (cs : List Char) : Option (List Char × List Char) :=
  if '/' ∈ cs then some (cs.takeWhile (· != '/'), (cs.dropWhile (· != '/')).drop 1) else none

/-- The address and the number of bits in a text. -/
def parts? (s : String) : Option (Ipv4 × Nat) := do
  let (address, bits) ← splitSlash? (Text.trimChars s.toList)
  return (← Ipv4.ofChars? address, ← Text.unsigned? 10 256 bits)

/-- **Reading a subnet.** Blanks around it are no matter, and an address
inside the block stands for the block. -/
def ofText (s : String) : Outcome SubnetError Subnet :=
  match parts? s with
  | none => Outcome.failed (.invalid s)
  | some (address, bits) =>
    if mostBits < bits then Outcome.failed (.tooSmall bits)
    else if bits = 0 then Outcome.crashed (.overflow .leftShift)
    else .ok ⟨blockBase address bits, bits⟩

/-- The subnet when nobody picks one. -/
def usual : Subnet := ⟨.ofOctets 172 28 0 0, 16⟩

/-- The subnet that an environment asks for, if it can be read. -/
def ofEnvironment (env : Environment) : Checked Subnet :=
  match env.dockerSubnet?.map ofText with
  | some (.ok subnet) => .ok subnet
  | some (.error (.crash (.overflow cause))) => .error cause
  | _ => .ok usual

/-- The address at an offset from the first one. -/
def address (subnet : Subnet) (offset : Nat) : Ipv4 :=
  ⟨UInt32.ofNat (subnet.base.value.toNat + offset)⟩

/-- The gateway of the containers. -/
def gateway (subnet : Subnet) : Ipv4 := subnet.address 1

/-- How many addresses the block has for hosts, the gateway included. -/
def hostCount (subnet : Subnet) : Nat := 2 ^ (32 - subnet.bits) - 2

end Subnet

namespace SubnetError

def message : SubnetError → String
  | invalid value => "invalid subnet `" ++ value ++ "`: expected <ipv4>/<prefix>"
  | tooSmall bits => "prefix /" ++ toString bits ++ " leaves no room for containers"
  | exhausted subnet => "subnet " ++ subnet.text ++ " exhausted"

end SubnetError

/-- **The addresses of a subnet that were not handed out yet**: those from an
offset on. -/
structure AddressPool where
  subnet : Subnet
  next : Nat
  deriving DecidableEq, Repr

namespace AddressPool

/-- Every address after the gateway. -/
def ofSubnet (subnet : Subnet) : AddressPool := ⟨subnet, 2⟩

/-- **Hands out the next address**, if there is one. -/
def take (pool : AddressPool) : Except SubnetError (Ipv4 × AddressPool) :=
  if pool.next ≤ pool.subnet.hostCount then
    .ok (pool.subnet.address pool.next, { pool with next := pool.next + 1 })
  else .error (.exhausted pool.subnet)

/-- **Hands out a number of addresses**, one after the other: those that were
there, and what was said where none was. -/
def takeMany (pool : AddressPool) : Nat → List Ipv4 × List SubnetError
  | 0 => ([], [])
  | left + 1 =>
    match pool.take with
    | .ok (address, pool) =>
      let (taken, refused) := pool.takeMany left
      (address :: taken, refused)
    | .error cause =>
      let (taken, refused) := pool.takeMany left
      (taken, cause :: refused)

end AddressPool

end LedgerNet
