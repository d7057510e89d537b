import LedgerNet.Text.Numeral

/-!
# Addresses of machines

Every node and every container has an address of version 4 or version 6.
An address is written in one way only: four decimal numbers for version 4,
and for version 6 eight hexadecimal groups, the longest run of zero groups
left out. It is read in every way the standard allows except for leading
zeros in a decimal number, which some systems would read as octal.
-/

namespace LedgerNet

open Text

/-- **An address of version 4**: 32 bits, the first number on top. -/
structure Ipv4 where
  value : UInt32
  deriving DecidableEq, Repr

/-- **An address of version 6**: eight groups of 16 bits. -/
structure Ipv6 where
  groups : List UInt16
  length_eq : groups.length = 8
  deriving DecidableEq

/-- **An address** of either version. -/
inductive Ip where
  | v4 (address : Ipv4)
  | v6 (address : Ipv6)
  deriving DecidableEq

/-! ## Writing -/

namespace Ipv4

/-- The address with these four numbers. -/
def ofOctets (a b c d : Nat) : Ipv4 :=
  ⟨UInt32.ofNat (((a * 256 + b) * 256 + c) * 256 + d)⟩

/-- The four numbers of an address. -/
def octets (ip : Ipv4) : List Nat :=
  let n := ip.value.toNat
  [n / 256 ^ 3, n / 256 ^ 2 % 256, n / 256 % 256, n % 256]

/-- **Four numbers with points between them.** -/
def text (ip : Ipv4) : String :=
  String.intercalate "." (ip.octets.map fun octet => toString octet)

end Ipv4

namespace Ipv6

/-- A run of zero groups: where it starts and how long it is. -/
structure ZeroRun where
  start : Nat
  length : Nat

/-- The longest run of zero groups, the first of several, given the longest
one so far and the one that is going on. -/
def longestRun (best current : ZeroRun) (position : Nat) : List UInt16 → ZeroRun
  | [] => best
  | group :: rest =>
    if group = 0 then
      let current : ZeroRun :=
        if current.length = 0 then ⟨position, 1⟩ else ⟨current.start, current.length + 1⟩
      let best := if best.length < current.length then current else best
      longestRun best current (position + 1) rest
    else longestRun best ⟨0, 0⟩ (position + 1) rest

/-- Groups in hexadecimal, without leading zeros, colons between them. -/
def groupsText (groups : List UInt16) : String :=
  String.intercalate ":" (groups.map fun group => String.ofList (Nat.toDigits 16 group.toNat))

/-- The address of version 4 that an address stands for, if its first five
groups are zero and the sixth is full. -/
def mapped? (ip : Ipv6) : Option Ipv4 :=
  match ip.groups with
  | [0, 0, 0, 0, 0, 0xffff, high, low] =>
    some ⟨UInt32.ofNat (high.toNat * 65536 + low.toNat)⟩
  | _ => none

/-- **The canonical text**: a mapped address ends in the text of version 4;
any other has its longest run of at least two zero groups left out. -/
def text (ip : Ipv6) : String :=
  match ip.mapped? with
  | some v4 => "::ffff:" ++ v4.text
  | none =>
    let run := longestRun ⟨0, 0⟩ ⟨0, 0⟩ 0 ip.groups
    if 1 < run.length then
      groupsText (ip.groups.take run.start) ++ "::"
        ++ groupsText (ip.groups.drop (run.start + run.length))
    else groupsText ip.groups

end Ipv6

/-- **The text of an address.** -/
def Ip.text : Ip → String
  | .v4 ip => ip.text
  | .v6 ip => ip.text

/-! ## Reading -/

/-- A decimal number from 0 to 255 without a leading zero, at most three
digits long, and the text after its digits. -/
def octet? (cs : List Char) : Option (Nat × List Char) :=
  let digits := cs.takeWhile Char.isDigit
  let rest := cs.dropWhile Char.isDigit
  if 3 < digits.length || (1 < digits.length && digits.head? == some '0') then none
  else ((digits? 10 digits).filter (· ≤ 255)).map fun n => (n, rest)

/-- The text after a given character. -/
def after? (c : Char) : List Char → Option (List Char)
  | d :: rest => if d = c then some rest else none
  | [] => none

/-- An address of version 4 at the front of a text. -/
def ipv4Front? (cs : List Char) : Option (Ipv4 × List Char) := do
  let (a, cs) ← octet? cs
  let (b, cs) ← octet? (← after? '.' cs)
  let (c, cs) ← octet? (← after? '.' cs)
  let (d, cs) ← octet? (← after? '.' cs)
  return (Ipv4.ofOctets a b c d, cs)

/-- **Reading an address of version 4**: the whole text is one. -/
def Ipv4.ofChars? (cs : List Char) : Option Ipv4 :=
  match ipv4Front? cs with
  | some (ip, []) => some ip
  | _ => none

def Ipv4.ofText? (s : String) : Option Ipv4 :=
  Ipv4.ofChars? s.toList

/-- A group of one to four hexadecimal digits, and the text after its
digits. -/
def group? (cs : List Char) : Option (UInt16 × List Char) :=
  let isHex (c : Char) := (digit? 16 c).isSome
  let digits := cs.takeWhile isHex
  if 4 < digits.length then none
  else (digits? 16 digits).map fun n => (UInt16.ofNat n, cs.dropWhile isHex)

/-- The two groups of an address of version 4. -/
def Ipv4.groups (ip : Ipv4) : List UInt16 :=
  [UInt16.ofNat (ip.value.toNat / 65536), UInt16.ofNat (ip.value.toNat % 65536)]

/-- What a sequence of groups came to. -/
structure GroupRun where
  groups : List UInt16
  /-- Whether it ended in an address of version 4. -/
  endsInV4 : Bool
  rest : List Char

/-- **Groups at the front of a text**, at most `slots` of them, a colon
before each but the first. Where two slots are left an address of version 4
may stand for both; nothing follows it. -/
def groupRun (first : Bool) : Nat → List Char → GroupRun
  | 0, cs => ⟨[], false, cs⟩
  | slots + 1, cs =>
    let start? := if first then some cs else after? ':' cs
    match start? with
    | none => ⟨[], false, cs⟩
    | some start =>
      match if 0 < slots then ipv4Front? start else none with
      | some (v4, rest) => ⟨v4.groups, true, rest⟩
      | none =>
        match group? start with
        | none => ⟨[], false, cs⟩
        | some (group, rest) =>
          let run := groupRun false slots rest
          ⟨group :: run.groups, run.endsInV4, run.rest⟩

/-- Eight groups, if there are eight. -/
def Ipv6.ofGroups? (groups : List UInt16) : Option Ipv6 :=
  if h : groups.length = 8 then some ⟨groups, h⟩ else none

/-- **Reading an address of version 6**: eight groups, or fewer with `::` in
place of at least one zero group. An address of version 4 may stand for the
last two groups. -/
def Ipv6.ofChars? (cs : List Char) : Option Ipv6 :=
  let head := groupRun true 8 cs
  if head.groups.length = 8 then
    if head.rest.isEmpty then Ipv6.ofGroups? head.groups else none
  else if head.endsInV4 then none
  else
    match head.rest with
    | ':' :: ':' :: rest =>
      let tail := groupRun true (7 - head.groups.length) rest
      let gap := 8 - head.groups.length - tail.groups.length
      if tail.rest.isEmpty then
        Ipv6.ofGroups? (head.groups ++ List.replicate gap 0 ++ tail.groups)
      else none
    | _ => none

/-- **Reading an address** of either version. -/
def Ip.ofText? (s : String) : Option Ip :=
  match Ipv4.ofText? s with
  | some ip => some (.v4 ip)
  | none => (Ipv6.ofChars? s.toList).map .v6

end LedgerNet
