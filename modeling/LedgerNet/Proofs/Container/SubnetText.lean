import LedgerNet.Proofs.Container.Block
import LedgerNet.Proofs.Net.Canonical
import LedgerNet.Proofs.Net.Ip

/-!
# Texts of subnets

What is read as a subnet is an address, a slash and a number of at most eight
bits, with blanks around (`Subnet.parts?_eq_some_iff`). The number may have
zeros or a plus sign in front, and the address may be any of its block; so a
subnet has many texts. Only one of them is written: it has the first address
of the block, and it is read as the subnet again.

Reading with words, where the mask is shifted and put on the address, comes to
the same, in what is accepted and in what is not (`Subnet.ofText_eq_map`).
-/

namespace LedgerNet

namespace Text

variable {n : Nat} {cs : List Char}

/-- Where no blank stands, nothing is cut off. -/
theorem trimChars_eq_self (h : ∀ c ∈ cs, isBlank c = false) : trimChars cs = cs := by
  have hkeep : ∀ {letters : List Char}, (∀ c ∈ letters, isBlank c = false) →
      letters.dropWhile isBlank = letters := by
    intro letters hletters
    cases letters with
    | nil => rfl
    | cons c rest => rw [List.dropWhile_cons, hletters c List.mem_cons_self, if_neg nofun]
  unfold trimChars
  rw [hkeep h, hkeep fun c hc => h c (List.mem_reverse.1 hc), List.reverse_reverse]

/-- A digit is no blank. -/
theorem isBlank_of_isDigit {c : Char} (h : c.isDigit = true) : isBlank c = false := by
  simp only [Char.isDigit, Bool.and_eq_true, decide_eq_true_eq] at h
  obtain ⟨k, hlow, hhigh, rfl⟩ := exists_ofNat_of_between (show '0' ≤ c from h.1)
    (show c ≤ '9' from h.2)
  change 48 ≤ k at hlow
  change k ≤ 57 at hhigh
  interval_cases k <;> rfl

/-- The digits of a number that fits into a byte denote it. -/
theorem denotes_toDigits (hn : n < 256) : Denotes 10 (Nat.toDigits 10 n) n :=
  digits?_eq_some_iff.1 (octet_digits n hn).2.2

end Text

namespace Subnet

variable {s : String} {subnet : Subnet} {address : Ipv4} {bits : Nat}

/-! ## What is read -/

/-- **A subnet as it may be written**: an address in its four numbers, a slash,
and digits that denote a number of eight bits, after a plus sign or not. Blanks
around all this are no matter. -/
def Written (s : String) (address : Ipv4) (bits : Nat) : Prop :=
  ∃ number digits, Text.trimChars s.toList = address.text.toList ++ '/' :: number
    ∧ (number = digits ∨ number = '+' :: digits) ∧ Text.Denotes 10 digits bits ∧ bits < 256

/-- **A text is split** where its first slash is. -/
theorem splitSlash?_eq_some_iff {cs front back : List Char} :
    splitSlash? cs = some (front, back) ↔ cs = front ++ '/' :: back ∧ '/' ∉ front := by
  have hnot : ∀ {front : List Char}, '/' ∉ front → ∀ c ∈ front, (c != '/') = true := by
    intro front hfront c hc
    rw [bne_iff_ne]
    rintro rfl
    exact hfront hc
  constructor
  · intro h
    unfold splitSlash? at h
    split at h
    · rename_i hmem
      obtain ⟨before, after, rfl, hbefore⟩ := List.eq_append_cons_of_mem hmem
      rw [List.takeWhile_append_of_pos (hnot hbefore), List.dropWhile_append_of_pos (hnot hbefore)]
        at h
      simp only [List.takeWhile_cons, List.dropWhile_cons, bne_self_eq_false, Bool.false_eq_true,
        if_false, List.append_nil, List.drop_succ_cons, List.drop_zero, Option.some.injEq,
        Prod.mk.injEq] at h
      obtain ⟨rfl, rfl⟩ := h
      exact ⟨rfl, hbefore⟩
    · cases h
  · rintro ⟨rfl, hfront⟩
    unfold splitSlash?
    rw [if_pos (List.mem_append_right _ List.mem_cons_self),
      List.takeWhile_append_of_pos (hnot hfront), List.dropWhile_append_of_pos (hnot hfront)]
    simp

/-- An address is written without a slash. -/
theorem slash_not_mem_text (ip : Ipv4) : '/' ∉ ip.text.toList := by
  intro h
  rcases Ipv4.mem_text h with h | h
  · exact absurd h (by decide)
  · exact absurd h (by decide)

/-- **What is read as an address and a number of bits.** -/
theorem parts?_eq_some_iff : parts? s = some (address, bits) ↔ Written s address bits := by
  simp only [parts?, Option.bind_eq_bind, Option.bind_eq_some_iff, Prod.exists,
    splitSlash?_eq_some_iff, Ipv4.ofChars?_eq_some_iff, Text.unsigned?_eq_some_iff,
    Option.pure_def, Option.some.injEq, Prod.mk.injEq, Written]
  constructor
  · rintro ⟨_, number, ⟨htext, -⟩, ip, rfl, n, ⟨digits, hnumber, hdigits, hlt⟩, rfl, rfl⟩
    exact ⟨number, digits, htext, hnumber, hdigits, hlt⟩
  · rintro ⟨number, digits, htext, hnumber, hdigits, hlt⟩
    exact ⟨_, number, ⟨htext, slash_not_mem_text address⟩, address, rfl, bits,
      ⟨digits, hnumber, hdigits, hlt⟩, rfl, rfl⟩

/-- A text that is not split into an address and a number is written as no
subnet. -/
theorem parts?_eq_none_iff : parts? s = none ↔ ∀ address bits, ¬ Written s address bits := by
  simp only [← parts?_eq_some_iff, Option.eq_none_iff_forall_ne_some, ne_eq, Prod.forall]

/-- A number of bits fits into a byte. -/
theorem Written.lt (h : Written s address bits) : bits < 256 := h.choose_spec.choose_spec.2.2.2

/-! ## How it is answered -/

/-- A subnet with some bits and not too many is accepted. -/
theorem ofText_of_written (h : Written s address bits) (hpos : 1 ≤ bits) (hle : bits ≤ 30) :
    ofText s = .ok ⟨blockBase address bits, bits⟩ := by
  unfold ofText
  rw [parts?_eq_some_iff.2 h]
  dsimp only
  rw [if_neg (show ¬ mostBits < bits from Nat.not_lt.2 hle), if_neg (by omega)]

/-- A subnet with too many bits is refused. -/
theorem ofText_of_lt (h : Written s address bits) (hlt : 30 < bits) :
    ofText s = Outcome.failed (.tooSmall bits) := by
  unfold ofText
  rw [parts?_eq_some_iff.2 h]
  exact if_pos hlt

/-- A subnet with no bit is a crash. -/
theorem ofText_of_zero (h : Written s address 0) :
    ofText s = Outcome.crashed (.overflow .leftShift) := by
  unfold ofText
  rw [parts?_eq_some_iff.2 h]
  rfl

/-- Any other text is invalid. -/
theorem ofText_of_not_written (h : ∀ address bits, ¬ Written s address bits) :
    ofText s = Outcome.failed (.invalid s) := by
  unfold ofText
  rw [parts?_eq_none_iff.2 h]

/-- **The four answers**, each with what is written. -/
theorem ofText_cases (s : String) :
    (∃ address bits, Written s address bits ∧ 1 ≤ bits ∧ bits ≤ 30
      ∧ ofText s = .ok ⟨blockBase address bits, bits⟩)
    ∨ (∃ address bits, Written s address bits ∧ 30 < bits
      ∧ ofText s = Outcome.failed (.tooSmall bits))
    ∨ (∃ address, Written s address 0 ∧ ofText s = Outcome.crashed (.overflow .leftShift))
    ∨ (∀ address bits, ¬ Written s address bits) ∧ ofText s = Outcome.failed (.invalid s) := by
  by_cases hwritten : ∃ address bits, Written s address bits
  · obtain ⟨address, bits, hwritten⟩ := hwritten
    rcases Nat.lt_or_ge 30 bits with hlt | hle
    · exact Or.inr (Or.inl ⟨address, bits, hwritten, hlt, ofText_of_lt hwritten hlt⟩)
    · rcases Nat.eq_zero_or_pos bits with rfl | hpos
      · exact Or.inr (Or.inr (Or.inl ⟨address, hwritten, ofText_of_zero hwritten⟩))
      · exact Or.inl ⟨address, bits, hwritten, hpos, hle, ofText_of_written hwritten hpos hle⟩
  · have hnone : ∀ address bits, ¬ Written s address bits :=
      fun address bits hone => hwritten ⟨address, bits, hone⟩
    exact Or.inr (Or.inr (Or.inr ⟨hnone, ofText_of_not_written hnone⟩))

/-- **Which texts are accepted, and as what.** -/
theorem ofText_eq_ok_iff : ofText s = .ok subnet
    ↔ ∃ address bits, Written s address bits ∧ 1 ≤ bits ∧ bits ≤ 30
      ∧ subnet = ⟨blockBase address bits, bits⟩ := by
  constructor
  · intro h
    obtain ⟨address, bits, hwritten, hpos, hle, heq⟩ | ⟨_, _, -, -, heq⟩ | ⟨_, -, heq⟩ | ⟨-, heq⟩ :=
      ofText_cases s
    · exact ⟨address, bits, hwritten, hpos, hle, Except.ok.inj (h.symm.trans heq)⟩
    all_goals cases h.symm.trans heq
  · rintro ⟨address, bits, hwritten, hpos, hle, rfl⟩
    exact ofText_of_written hwritten hpos hle

/-- **Which texts leave no room.** -/
theorem ofText_eq_tooSmall_iff : ofText s = Outcome.failed (.tooSmall bits)
    ↔ 30 < bits ∧ ∃ address, Written s address bits := by
  constructor
  · intro h
    obtain ⟨_, _, -, -, -, heq⟩ | ⟨address, _, hwritten, hlt, heq⟩ | ⟨_, -, heq⟩ | ⟨-, heq⟩ :=
      ofText_cases s
    case inr.inl =>
      cases h.symm.trans heq
      exact ⟨hlt, address, hwritten⟩
    all_goals cases h.symm.trans heq
  · rintro ⟨hlt, address, hwritten⟩
    exact ofText_of_lt hwritten hlt

/-- **Which texts are invalid.** -/
theorem ofText_eq_invalid_iff : ofText s = Outcome.failed (.invalid s)
    ↔ ∀ address bits, ¬ Written s address bits := by
  constructor
  · intro h
    obtain ⟨_, _, -, -, -, heq⟩ | ⟨_, _, -, -, heq⟩ | ⟨_, -, heq⟩ | ⟨hnone, -⟩ := ofText_cases s
    case inr.inr.inr => exact hnone
    all_goals cases h.symm.trans heq
  · exact ofText_of_not_written

/-- **Which texts are a crash, and why.** -/
theorem ofText_eq_crashed_iff {crash : Crash} : ofText s = Outcome.crashed crash
    ↔ crash = .overflow .leftShift ∧ ∃ address, Written s address 0 := by
  constructor
  · intro h
    obtain ⟨_, _, -, -, -, heq⟩ | ⟨_, _, -, -, heq⟩ | ⟨address, hwritten, heq⟩ | ⟨-, heq⟩ :=
      ofText_cases s
    case inr.inr.inl =>
      cases h.symm.trans heq
      exact ⟨rfl, address, hwritten⟩
    all_goals cases h.symm.trans heq
  · rintro ⟨rfl, address, hwritten⟩
    exact ofText_of_zero hwritten

/-- **What is accepted is a block.** -/
theorem isBlock_of_ofText (h : ofText s = .ok subnet) : subnet.IsBlock := by
  obtain ⟨address, bits, -, hpos, hle, rfl⟩ := ofText_eq_ok_iff.1 h
  exact isBlock_blockBase address hpos hle

/-- **Words are as good as numbers**: reading with them gives the same subnet,
the same refusal or the same crash. -/
theorem ofText_eq_map (s : String) :
    ofText s = (WordSubnet.ofText s).map WordSubnet.toSubnet := by
  unfold ofText WordSubnet.ofText
  cases hparts : parts? s with
  | none => rfl
  | some parts =>
    obtain ⟨address, bits⟩ := parts
    have hbyte : (UInt8.ofNat bits).toNat = bits :=
      UInt8.toNat_ofNat_of_lt' (parts?_eq_some_iff.1 hparts).lt
    have hmany : 30 < UInt8.ofNat bits ↔ mostBits < bits := by
      rw [UInt8.lt_iff_toNat_lt, hbyte]
      rfl
    dsimp only
    by_cases hlt : mostBits < bits
    · rw [if_pos hlt, if_pos (hmany.2 hlt), hbyte]
      rfl
    · rw [if_neg hlt, if_neg fun h => hlt (hmany.1 h)]
      rcases Nat.eq_zero_or_pos bits with rfl | hpos
      · rfl
      · have hle : bits ≤ 30 := Nat.not_lt.1 hlt
        have hone : 1 ≤ (UInt8.ofNat bits).toNat := by omega
        obtain ⟨word, hmask, hword⟩ := WordSubnet.mask_of_pos hone (by omega)
        rw [if_neg (by omega), hmask]
        refine congrArg Except.ok ?_
        unfold WordSubnet.toSubnet
        dsimp only
        rw [hword, hbyte]

/-! ## What is written -/

/-- **The text of an address and a number** is read as these. -/
theorem written_text (address : Ipv4) (hbits : bits < 256) :
    Written (address.text ++ "/" ++ toString bits) address bits := by
  refine ⟨Nat.toDigits 10 bits, _, ?_, Or.inl rfl, Text.denotes_toDigits hbits, hbits⟩
  have hletters : (address.text ++ "/" ++ toString bits).toList
      = address.text.toList ++ '/' :: Nat.toDigits 10 bits := by
    rw [String.toList_append, String.toList_append, Nat.toString_eq_repr, Nat.toList_repr,
      List.append_assoc]
    rfl
  rw [hletters]
  refine Text.trimChars_eq_self fun c hc => ?_
  rcases List.mem_append.1 hc with hc | hc
  · rcases Ipv4.mem_text hc with rfl | hc
    · rfl
    · exact Text.isBlank_of_isDigit hc
  · rcases List.mem_cons.1 hc with rfl | hc
    · rfl
    · exact Text.isBlank_of_isDigit (Nat.isDigit_of_mem_toDigits (by decide) (by decide) hc)

/-- The text of an address in a block, for each number of bits that has one. -/
theorem ofText_append (address : Ipv4) (hpos : 1 ≤ bits) (hle : bits ≤ 30) :
    ofText (address.text ++ "/" ++ toString bits) = .ok ⟨blockBase address bits, bits⟩ :=
  ofText_of_written (written_text address (by omega)) hpos hle

/-- **A block is read from its text.** -/
theorem IsBlock.ofText_text (h : subnet.IsBlock) : ofText subnet.text = .ok subnet := by
  have hread := ofText_append subnet.base h.one_le h.le_thirty
  rwa [h.aligned] at hread

/-- **The text of a subnet is canonical.** What is read from a text is read from
the subnet's own text again. Two texts of an address and a number of bits, from
one to thirty, are read as the same subnet exactly if the numbers are the same
and the addresses agree on that many first bits. The address of the subnet has
these bits and zeros after them. -/
theorem ofText_text_canonical :
    (∀ s subnet, ofText s = .ok subnet → ofText subnet.text = .ok subnet)
    ∧ ∀ (a b : Ipv4) (p q : Nat), 1 ≤ p → p ≤ 30 → 1 ≤ q → q ≤ 30 →
      ∃ s t, ofText (a.text ++ "/" ++ toString p) = .ok s
        ∧ ofText (b.text ++ "/" ++ toString q) = .ok t
        ∧ s.bits = p ∧ (∀ i < 32, s.base.bit i = (decide (i < p) && a.bit i))
        ∧ (s = t ↔ p = q ∧ ∀ i < p, a.bit i = b.bit i) := by
  refine ⟨fun s subnet h => (isBlock_of_ofText h).ofText_text, ?_⟩
  intro a b p q hp hp' hq hq'
  refine ⟨_, _, ofText_append a hp hp', ofText_append b hq hq', rfl,
    fun i hi => bit_blockBase a (by omega) hi, ?_⟩
  rw [Subnet.mk.injEq]
  constructor
  · rintro ⟨hbase, rfl⟩
    exact ⟨rfl, (blockBase_eq_iff (by omega)).1 hbase⟩
  · rintro ⟨rfl, hagree⟩
    exact ⟨(blockBase_eq_iff (by omega)).2 hagree, rfl⟩

/-- Two addresses that differ after the first 25 bits only are in one block of
24 bits. -/
theorem ofText_text_canonical_shared :
    ofText "10.1.2.3/24" = .ok ⟨.ofOctets 10 1 2 0, 24⟩
    ∧ ofText (text ⟨.ofOctets 10 1 2 0, 24⟩) = .ok ⟨.ofOctets 10 1 2 0, 24⟩
    ∧ ∃ s t, ofText ((Ipv4.ofOctets 10 1 2 3).text ++ "/" ++ toString 24) = .ok s
        ∧ ofText ((Ipv4.ofOctets 10 1 2 200).text ++ "/" ++ toString 24) = .ok t ∧ s = t := by
  have hread : ofText "10.1.2.3/24" = .ok ⟨.ofOctets 10 1 2 0, 24⟩ := by decide +kernel
  obtain ⟨hagain, hblocks⟩ := ofText_text_canonical
  obtain ⟨s, t, hs, ht, -, -, hsame⟩ := hblocks (.ofOctets 10 1 2 3) (.ofOctets 10 1 2 200) 24 24
    (by decide) (by decide) (by decide) (by decide)
  exact ⟨hread, hagain _ _ hread, s, t, hs, ht, hsame.2 ⟨rfl, by decide⟩⟩

end Subnet

end LedgerNet
