import LedgerNet.Proofs.Net.Ipv4
import Mathlib.Data.List.Basic

/-!
# The letters of an address

An address is written with digits, points and colons and with nothing else
(`Ip.isLetter_of_mem_text`), so its text can stand between brackets, before a
port or in a command without being taken for part of what is around it. A
colon tells the versions apart: every text of version 6 has one and no text
of version 4 does, so no address of one version is written like an address of
the other (`Ip.text_v4_ne_v6`).
-/

namespace LedgerNet

/-! ## Numbers and separators -/

/-- A digit of a base up to sixteen is one of sixteen letters. -/
theorem digitChar_mem {n : Nat} (hn : n < 16) : n.digitChar ∈ "0123456789abcdef".toList := by
  have hall : ∀ n < 16, n.digitChar ∈ "0123456789abcdef".toList := by decide
  exact hall n hn

/-- A number in a base up to sixteen is written with those letters, by
induction on the number. -/
theorem mem_digits_of_mem_toDigits {base : Nat} (htwo : 1 < base) (hbase : base ≤ 16) {c : Char} :
    ∀ {n : Nat}, c ∈ Nat.toDigits base n → c ∈ "0123456789abcdef".toList := by
  intro n
  induction n using Nat.strongRecOn with
  | ind n ih =>
    intro hc
    rw [Nat.toDigits_eq_if htwo] at hc
    split at hc
    · rename_i hlt
      rw [List.mem_singleton.1 hc]
      exact digitChar_mem (Nat.lt_of_lt_of_le hlt hbase)
    · rename_i hge
      rcases List.mem_append.1 hc with hc | hc
      · exact ih _ (Nat.div_lt_self (by omega) htwo) hc
      · rw [List.mem_singleton.1 hc]
        exact digitChar_mem (Nat.lt_of_lt_of_le (Nat.mod_lt n (by omega)) hbase)

/-- A number is written with those letters. -/
theorem mem_digits_of_mem_toString {n : Nat} {c : Char} (h : c ∈ (toString n).toList) :
    c ∈ "0123456789abcdef".toList := by
  rw [Nat.toString_eq_repr, Nat.toList_repr] at h
  exact mem_digits_of_mem_toDigits (by decide) (by decide) h

/-- What stands in texts with separators stands in a text or in a
separator. -/
theorem mem_of_mem_intercalate {α : Type} {x : α} {separator : List α} {texts : List (List α)}
    (h : x ∈ separator.intercalate texts) : x ∈ separator ∨ ∃ text ∈ texts, x ∈ text := by
  induction texts with
  | nil => exact absurd h List.not_mem_nil
  | cons text texts ih =>
    cases texts with
    | nil =>
      rw [List.intercalate_singleton] at h
      exact Or.inr ⟨text, List.mem_singleton_self text, h⟩
    | cons next rest =>
      rw [List.intercalate_cons_cons, List.append_assoc] at h
      rcases List.mem_append.1 h with h | h
      · exact Or.inr ⟨text, List.mem_cons_self, h⟩
      · rcases List.mem_append.1 h with h | h
        · exact Or.inl h
        · obtain h | ⟨other, hmem, h⟩ := ih h
          · exact Or.inl h
          · exact Or.inr ⟨other, List.mem_cons_of_mem _ hmem, h⟩

/-! ## The letters of a text -/

/-- **A letter that addresses are written with.** -/
def Ip.IsLetter (c : Char) : Prop := c ∈ "0123456789abcdef:.".toList

instance (c : Char) : Decidable (Ip.IsLetter c) := inferInstanceAs (Decidable (c ∈ _))

theorem Ip.isLetter_of_mem {letters : String}
    (hall : letters.toList.all fun c => Ip.IsLetter c) {c : Char} (h : c ∈ letters.toList) :
    Ip.IsLetter c :=
  of_decide_eq_true (List.all_eq_true.1 hall c h)

theorem Ip.isLetter_of_mem_digits {c : Char} (h : c ∈ "0123456789abcdef".toList) :
    Ip.IsLetter c :=
  Ip.isLetter_of_mem (by decide) h

namespace Ipv4

/-- An address of version 4 is written with digits and points. -/
theorem mem_text {ip : Ipv4} {c : Char} (h : c ∈ ip.text.toList) :
    c = '.' ∨ c.isDigit = true := by
  rw [toList_text] at h
  simp only [List.mem_append, List.mem_cons, List.append_nil] at h
  rcases h with h | rfl | h | rfl | h | rfl | h
  all_goals first
    | exact Or.inl rfl
    | exact Or.inr (Nat.isDigit_of_mem_toDigits (by decide) (by decide) h)

theorem colon_not_mem_text (ip : Ipv4) : ':' ∉ ip.text.toList := by
  intro h
  rcases mem_text h with h | h
  · exact absurd h (by decide)
  · exact absurd h (by decide)

theorem isLetter_of_mem_text {ip : Ipv4} {c : Char} (h : c ∈ ip.text.toList) :
    Ip.IsLetter c := by
  rw [toList_text] at h
  simp only [List.mem_append, List.mem_cons, List.append_nil] at h
  have hdigit : ∀ {n}, c ∈ Nat.toDigits 10 n → Ip.IsLetter c := fun h =>
    Ip.isLetter_of_mem_digits (mem_digits_of_mem_toDigits (by decide) (by decide) h)
  rcases h with h | rfl | h | rfl | h | rfl | h
  all_goals first
    | exact hdigit h
    | decide

end Ipv4

namespace Ipv6

/-- Groups are written with digits, and colons between them. -/
theorem isLetter_of_mem_groupsText {groups : List UInt16} {c : Char}
    (h : c ∈ (groupsText groups).toList) : Ip.IsLetter c := by
  unfold groupsText at h
  rw [String.toList_intercalate] at h
  obtain h | ⟨text, hmem, h⟩ := mem_of_mem_intercalate h
  · rw [List.mem_singleton.1 (show c ∈ [':'] from h)]
    decide
  · rw [List.map_map] at hmem
    obtain ⟨group, -, rfl⟩ := List.mem_map.1 hmem
    have hdigits : c ∈ Nat.toDigits 16 group.toNat := by
      rwa [Function.comp_apply, String.toList_ofList] at h
    exact Ip.isLetter_of_mem_digits
      (mem_digits_of_mem_toDigits (by decide) (by decide) hdigits)

/-- Two groups have a colon between them. -/
theorem colon_mem_groupsText {groups : List UInt16} (h : 1 < groups.length) :
    ':' ∈ (groupsText groups).toList := by
  obtain ⟨first, second, rest, rfl⟩ : ∃ first second rest, groups = first :: second :: rest := by
    match groups, h with
    | first :: second :: rest, _ => exact ⟨first, second, rest, rfl⟩
  unfold groupsText
  rw [String.toList_intercalate]
  simp only [List.map_cons, List.intercalate_cons_cons]
  exact List.mem_append_left _ (List.mem_append_right _ (List.mem_singleton_self ':'))

theorem isLetter_of_mem_text {ip : Ipv6} {c : Char} (h : c ∈ ip.text.toList) :
    Ip.IsLetter c := by
  unfold text at h
  split at h
  · rw [String.toList_append] at h
    rcases List.mem_append.1 h with h | h
    · exact Ip.isLetter_of_mem (by decide) h
    · exact Ipv4.isLetter_of_mem_text h
  · dsimp only at h
    split at h
    · rw [String.toList_append, String.toList_append] at h
      rcases List.mem_append.1 h with h | h
      · rcases List.mem_append.1 h with h | h
        · exact isLetter_of_mem_groupsText h
        · exact Ip.isLetter_of_mem (by decide) h
      · exact isLetter_of_mem_groupsText h
    · exact isLetter_of_mem_groupsText h

/-- **The text of an address of version 6 has a colon**: one of the two that
stand for zero groups, or one between two of its eight groups. -/
theorem colon_mem_text (ip : Ipv6) : ':' ∈ ip.text.toList := by
  unfold text
  split
  · rw [String.toList_append]
    exact List.mem_append_left _ (by decide)
  · dsimp only
    split
    · rw [String.toList_append, String.toList_append]
      exact List.mem_append_left _ (List.mem_append_right _ (by decide))
    · refine colon_mem_groupsText ?_
      rw [ip.length_eq]
      decide

end Ipv6

namespace Ip

/-- **An address is written with digits, points and colons.** -/
theorem isLetter_of_mem_text {ip : Ip} {c : Char} (h : c ∈ ip.text.toList) : IsLetter c := by
  cases ip with
  | v4 ip => exact Ipv4.isLetter_of_mem_text h
  | v6 ip => exact Ipv6.isLetter_of_mem_text h

/-- No address of version 4 is written like one of version 6. -/
theorem text_v4_ne_v6 (a : Ipv4) (b : Ipv6) : (v4 a).text ≠ (v6 b).text := by
  intro h
  have hcolon : ':' ∈ (v4 a).text.toList := by
    rw [h]
    exact b.colon_mem_text
  exact a.colon_not_mem_text hcolon

/-- **Which addresses an address of version 4 is written like**: itself. -/
theorem text_eq_v4_iff {ip : Ip} {a : Ipv4} : ip.text = a.text ↔ ip = v4 a := by
  constructor
  · intro h
    cases ip with
    | v4 b => rw [Ipv4.text_injective h]
    | v6 b => exact absurd h.symm (text_v4_ne_v6 a b)
  · rintro rfl
    rfl

end Ip

end LedgerNet
