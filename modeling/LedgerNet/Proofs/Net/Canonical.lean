import LedgerNet.Proofs.Net.Ipv4
import LedgerNet.Proofs.Text.Numeral

/-!
# An address of version 4 is read from its own text only

Four numbers with points between them leave no choice: a number is refused if
it has a zero in front, if it is longer than three digits or too large. So
among all texts there is one that is read as a given address, and it is the
one that is written for it (`Ipv4.ofChars?_eq_some_iff`).
-/

namespace LedgerNet

namespace Text

variable {n value : Nat} {c : Char} {cs : List Char}

/-- A decimal digit is the one that its value is written with. -/
theorem digitChar_of_isDigit (h : IsDigit 10 c value) : value.digitChar = c := by
  obtain ⟨hlt, h⟩ := h
  interval_cases value <;> exact Option.some.inj (h.elim id id)

/-- **Digits after a number that is not zero** go on with its own digits. -/
theorem toDigits_of_digitsFrom (hpos : 0 < value) (h : digitsFrom 10 value cs = some n) :
    Nat.toDigits 10 n = Nat.toDigits 10 value ++ cs := by
  induction cs generalizing value with
  | nil => rw [← Option.some.inj h, List.append_nil]
  | cons c cs ih =>
    simp only [digitsFrom, Option.bind_eq_bind, Option.bind_eq_some_iff,
      digit?_eq_some_iff] at h
    obtain ⟨digit, hdigit, h⟩ := h
    have hlast := Nat.toDigits_append_toDigits (b := 10) (d := digit) (by decide) hpos hdigit.1
    rw [Nat.toDigits_of_lt_base hdigit.1, digitChar_of_isDigit hdigit] at hlast
    rw [ih (by omega) h, Nat.mul_comm, ← hlast, List.append_assoc, List.singleton_append]

/-- **A decimal number without a zero in front has one text.** -/
theorem toDigits_of_digits? (h : digits? 10 (c :: cs) = some n) (hc : c = '0' → cs = []) :
    Nat.toDigits 10 n = c :: cs := by
  simp only [digits?, List.isEmpty_cons, Bool.false_eq_true, if_false, digitsFrom,
    Option.bind_eq_bind, Option.bind_eq_some_iff, digit?_eq_some_iff, Nat.zero_mul,
    Nat.zero_add] at h
  obtain ⟨digit, hdigit, h⟩ := h
  have hchar := digitChar_of_isDigit hdigit
  rcases Nat.eq_zero_or_pos digit with rfl | hpos
  · obtain rfl := hc hchar.symm
    obtain rfl := Option.some.inj h
    exact congrArg ([·]) hchar
  · rw [toDigits_of_digitsFrom hpos h, Nat.toDigits_of_lt_base hdigit.1, hchar,
      List.singleton_append]

end Text

/-- **A number at the front of a text** stands there as it is written. -/
theorem eq_append_of_octet? {cs rest : List Char} {n : Nat} (h : octet? cs = some (n, rest)) :
    cs = Nat.toDigits 10 n ++ rest ∧ n < 256 := by
  have hsplit : cs.takeWhile Char.isDigit ++ cs.dropWhile Char.isDigit = cs :=
    List.takeWhile_append_dropWhile
  unfold octet? at h
  dsimp only at h
  split at h
  · cases h
  · rename_i hshape
    obtain ⟨m, hm, heq⟩ := Option.map_eq_some_iff.1 h
    obtain ⟨rfl, rfl⟩ := Prod.mk.inj heq
    obtain ⟨hdigits, hle⟩ := Option.filter_eq_some_iff.1 hm
    refine ⟨?_, Nat.lt_succ_of_le (of_decide_eq_true hle)⟩
    cases hfront : cs.takeWhile Char.isDigit with
    | nil =>
      rw [hfront] at hdigits
      cases hdigits
    | cons c front =>
      rw [hfront] at hdigits hshape hsplit
      rw [Text.toDigits_of_digits? hdigits, hsplit]
      rintro rfl
      cases front with
      | nil => rfl
      | cons _ _ => simp at hshape

/-- A point and the text after it. -/
theorem after?_eq_some_iff {c : Char} {cs rest : List Char} :
    after? c cs = some rest ↔ cs = c :: rest := by
  cases cs with
  | nil => exact iff_of_false nofun nofun
  | cons d cs =>
    by_cases hd : d = c <;> simp [after?, hd]

namespace Ipv4

/-- The numbers of an address that is made of four numbers. -/
theorem octets_ofOctets {a b c d : Nat} (ha : a < 256) (hb : b < 256) (hc : c < 256)
    (hd : d < 256) : (ofOctets a b c d).octets = [a, b, c, d] := by
  have hvalue : (ofOctets a b c d).value.toNat = ((a * 256 + b) * 256 + c) * 256 + d :=
    UInt32.toNat_ofNat_of_lt' (show _ < 2 ^ 32 by omega)
  unfold octets
  rw [hvalue]
  refine congrArg₂ _ ?_ (congrArg₂ _ ?_ (congrArg₂ _ ?_ (congrArg₂ _ ?_ rfl))) <;> omega

/-- The text of an address whose numbers are known. -/
theorem toList_text_of_octets {ip : Ipv4} {a b c d : Nat} (h : ip.octets = [a, b, c, d]) :
    ip.text.toList = Nat.toDigits 10 a ++ '.' :: (Nat.toDigits 10 b
      ++ '.' :: (Nat.toDigits 10 c ++ '.' :: (Nat.toDigits 10 d ++ []))) := by
  obtain ⟨ha, h⟩ := List.cons.inj h
  obtain ⟨hb, h⟩ := List.cons.inj h
  obtain ⟨hc, h⟩ := List.cons.inj h
  obtain ⟨hd, -⟩ := List.cons.inj h
  rw [toList_text, ha, hb, hc, hd]

/-- **The one text that is read as an address** is its own. -/
theorem ofChars?_eq_some_iff {cs : List Char} {ip : Ipv4} :
    ofChars? cs = some ip ↔ cs = ip.text.toList := by
  constructor
  · intro h
    unfold ofChars? at h
    split at h
    · rename_i found hfront
      obtain rfl := Option.some.inj h
      simp only [ipv4Front?, Option.bind_eq_bind, Option.bind_eq_some_iff, Prod.exists,
        after?_eq_some_iff, Option.pure_def, Option.some.injEq, Prod.mk.injEq] at hfront
      obtain ⟨a, _, ha, _, rfl, b, _, hb, _, rfl, c, _, hc, _, rfl, d, _, hd, rfl, rfl⟩ := hfront
      obtain ⟨ha, ha'⟩ := eq_append_of_octet? ha
      obtain ⟨hb, hb'⟩ := eq_append_of_octet? hb
      obtain ⟨hc, hc'⟩ := eq_append_of_octet? hc
      obtain ⟨hd, hd'⟩ := eq_append_of_octet? hd
      rw [toList_text_of_octets (octets_ofOctets ha' hb' hc' hd'), ha, hb, hc, hd]
    · cases h
  · rintro rfl
    exact ofChars?_text ip

end Ipv4

end LedgerNet
