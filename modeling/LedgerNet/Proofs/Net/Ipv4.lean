import LedgerNet.Net.Ip
import Mathlib.Data.Nat.Notation
import Mathlib.Logic.Function.Basic

/-!
# The text of an address can be read

An address of version 4 has one text, and reading that text gives the address
back (`Ipv4.ofChars?_text`). So two addresses with one text are the same, and
who is told an address as a text is told which one it is.
-/

namespace LedgerNet

/-- The digits of a number that fits into a byte are as they have to be. -/
theorem octet_digits : ∀ n < 256, (Nat.toDigits 10 n).all Char.isDigit = true
    ∧ (decide (3 < (Nat.toDigits 10 n).length) || (decide (1 < (Nat.toDigits 10 n).length)
      && (Nat.toDigits 10 n).head? == some '0')) = false
    ∧ Text.digits? 10 (Nat.toDigits 10 n) = some n := by
  decide +kernel

/-- A number that fits into a byte is read off the front of a text. -/
theorem octet?_toDigits {n : Nat} (hn : n < 256) {rest : List Char}
    (hrest : ∀ c ∈ rest.head?, c.isDigit = false) :
    octet? (Nat.toDigits 10 n ++ rest) = some (n, rest) := by
  obtain ⟨hall, hshape, hvalue⟩ := octet_digits n hn
  have hdigits := List.all_eq_true.1 hall
  have hstop : rest.takeWhile Char.isDigit = [] ∧ rest.dropWhile Char.isDigit = rest := by
    cases rest with
    | nil => exact ⟨rfl, rfl⟩
    | cons c rest =>
      have hc : c.isDigit = false := hrest c rfl
      rw [List.takeWhile_cons, List.dropWhile_cons, hc]
      exact ⟨rfl, rfl⟩
  unfold octet?
  rw [List.takeWhile_append_of_pos hdigits, List.dropWhile_append_of_pos hdigits, hstop.1, hstop.2,
    List.append_nil]
  dsimp only
  rw [hshape, hvalue]
  have hle : n ≤ 255 := Nat.le_of_lt_succ hn
  simp [hle]

namespace Ipv4

/-- The text of an address, letter by letter. -/
theorem toList_text (ip : Ipv4) :
    ip.text.toList = Nat.toDigits 10 (ip.value.toNat / 256 ^ 3)
      ++ '.' :: (Nat.toDigits 10 (ip.value.toNat / 256 ^ 2 % 256)
      ++ '.' :: (Nat.toDigits 10 (ip.value.toNat / 256 % 256)
      ++ '.' :: (Nat.toDigits 10 (ip.value.toNat % 256) ++ []))) := by
  unfold text octets
  rw [String.toList_intercalate]
  simp only [List.map_cons, List.map_nil, Nat.toString_eq_repr, Nat.toList_repr]
  simp [List.intercalate, List.intersperse]

/-- The numbers of an address make up the address. -/
theorem ofOctets_octets (ip : Ipv4) :
    ofOctets (ip.value.toNat / 256 ^ 3) (ip.value.toNat / 256 ^ 2 % 256)
      (ip.value.toNat / 256 % 256) (ip.value.toNat % 256) = ip := by
  have hsum : ((ip.value.toNat / 256 ^ 3 * 256 + ip.value.toNat / 256 ^ 2 % 256) * 256
      + ip.value.toNat / 256 % 256) * 256 + ip.value.toNat % 256 = ip.value.toNat := by
    omega
  unfold ofOctets
  rw [hsum, UInt32.ofNat_toNat]

/-- **The text of an address is read as the address.** -/
theorem ofChars?_text (ip : Ipv4) : ofChars? ip.text.toList = some ip := by
  have htop : ip.value.toNat / 256 ^ 3 < 256 := by
    have hlt := ip.value.toNat_lt
    omega
  have hpoint : ∀ (rest : List Char), ∀ c ∈ ('.' :: rest).head?, c.isDigit = false := by
    intro rest c hc
    obtain rfl := Option.some.inj hc
    decide
  have hmod : ∀ n, n % 256 < 256 := fun n => Nat.mod_lt n (by decide)
  unfold ofChars? ipv4Front?
  rw [toList_text, octet?_toDigits htop (hpoint _)]
  simp only [Option.bind_eq_bind, Option.bind_some, after?, if_true]
  rw [octet?_toDigits (hmod _) (hpoint _)]
  simp only [Option.bind_some, if_true]
  rw [octet?_toDigits (hmod _) (hpoint _)]
  simp only [Option.bind_some, if_true]
  rw [octet?_toDigits (hmod _) (by exact nofun)]
  simp only [Option.bind_some, Option.pure_def, ofOctets_octets]

/-- Different addresses have different texts. -/
theorem text_injective : Function.Injective text := by
  intro a b h
  have hread := ofChars?_text a
  rw [h, ofChars?_text] at hread
  exact (Option.some.inj hread).symm

end Ipv4

end LedgerNet
