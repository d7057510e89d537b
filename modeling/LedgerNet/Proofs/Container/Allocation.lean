import LedgerNet.Proofs.Container.SubnetText
import Mathlib.Data.List.Nodup

/-!
# Addresses are handed out in a row

A pool keeps the offset of the next address. It begins after the gateway and
is moved by one for each address that is handed out, so the addresses come in a
row, up to the one before the last of the block; what asks for more is told
that the block is exhausted. An answer depends on its offset only
(`Subnet.answer`), and a run of questions is answered from a run of offsets, by
induction on the questions (`WordPool.takeMany_eq`). The offset never leaves the
block, which is why none of the sums overflows.

What a subnet that was read from a text can be asked for never crashes. What
can is the reading: a block that agrees on no bit is not refused, and its mask
would have to be shifted by all bits of a word.
-/

namespace LedgerNet

namespace Subnet

variable {subnet : Subnet} {ip : Ipv4} {offset start n k : Nat}

/-! ## Answers by their offsets -/

/-- The address for broadcasts, the last one of the block. -/
def broadcast (subnet : Subnet) : Ipv4 := subnet.address (subnet.size - 1)

/-- **What a question is answered** when the pool is at an offset. -/
def answer (subnet : Subnet) (offset : Nat) : Except SubnetError Ipv4 :=
  if offset < subnet.size - 1 then .ok (subnet.address offset) else .error (.exhausted subnet)

/-- The answers to questions in a row. -/
def answers (subnet : Subnet) (start n : Nat) : List (Except SubnetError Ipv4) :=
  (List.range' start n).map subnet.answer

/-- The addresses among the answers. -/
def handedOut (answers : List (Except SubnetError Ipv4)) : List Ipv4 :=
  answers.filterMap Except.toOption

/-- The errors among the answers. -/
def refusals (answers : List (Except SubnetError Ipv4)) : List SubnetError :=
  answers.filterMap fun
    | .ok _ => none
    | .error cause => some cause

theorem answers_succ : subnet.answers start (n + 1)
    = subnet.answer start :: subnet.answers (start + 1) n := rfl

/-- At the end of the block all answers are the same. -/
theorem answers_of_le (h : subnet.size - 1 ≤ start) :
    subnet.answers start n = List.replicate n (.error (.exhausted subnet)) := by
  refine List.eq_replicate_iff.2 ⟨by rw [answers, List.length_map, List.length_range'], ?_⟩
  intro found hfound
  obtain ⟨offset, hmem, rfl⟩ := List.mem_map.1 hfound
  have hle := (List.mem_range'_1.1 hmem).1
  exact if_neg (by omega)

/-- The answer to one of the questions. -/
theorem getElem?_answers (hk : k < n) :
    (subnet.answers start n)[k]? = some (subnet.answer (start + k)) := by
  rw [answers, List.getElem?_map, List.getElem?_range' hk, Nat.one_mul, Option.map_some]

/-- **Which addresses are handed out**: those at the offsets that were come to,
short of the last address. -/
theorem mem_handedOut_answers : ip ∈ handedOut (subnet.answers start n)
    ↔ ∃ offset, start ≤ offset ∧ offset < start + n ∧ offset < subnet.size - 1
      ∧ ip = subnet.address offset := by
  unfold handedOut answers
  rw [List.filterMap_map, List.mem_filterMap]
  simp only [List.mem_range'_1, Function.comp_apply, answer]
  constructor
  · rintro ⟨offset, ⟨hstart, hend⟩, hanswer⟩
    split at hanswer
    · rename_i hlt
      exact ⟨offset, hstart, hend, hlt, (Option.some.inj hanswer).symm⟩
    · cases hanswer
  · rintro ⟨offset, hstart, hend, hlt, rfl⟩
    refine ⟨offset, ⟨hstart, hend⟩, ?_⟩
    rw [if_pos hlt]
    rfl

/-- **A question is refused** at the end of the block. -/
theorem size_sub_one_lt_of_refused {cause : SubnetError}
    (h : Except.error cause ∈ subnet.answers start n) : subnet.size - 1 < start + n := by
  obtain ⟨offset, hmem, heq⟩ := List.mem_map.1 h
  have hend := List.mem_range'_1.1 hmem
  unfold answer at heq
  split at heq
  · cases heq
  · omega

/-- **A block is allotted** by answers: the addresses after the gateway are
handed out in a row, all but the last one, and then no more. -/
structure Allots (subnet : Subnet) (answers : List (Except SubnetError Ipv4)) : Prop where
  /-- Up to the end of the block, each answer has the next address. -/
  sequential : ∀ k, 1 ≤ k → k ≤ answers.length → k ≤ subnet.size - 3 →
    ∃ ip, answers[k - 1]? = some (.ok ip) ∧ ip.value.toNat = subnet.base.value.toNat + 1 + k
  /-- After that, each answer is that there is none. -/
  bounded : ∀ k, k ≤ answers.length → subnet.size - 3 < k →
    answers[k - 1]? = some (.error (.exhausted subnet))
  /-- No address is handed out twice. -/
  distinct : (handedOut answers).Nodup
  /-- What is handed out lies in the block. -/
  inside : ∀ ip ∈ handedOut answers, subnet.Holds ip
  /-- No address that has another purpose is handed out. -/
  reserved : ∀ ip ∈ handedOut answers, ip ≠ subnet.base ∧ ip ≠ subnet.gateway
    ∧ ip ≠ subnet.broadcast
  /-- Before anyone is told that there is none left, all are handed out. -/
  complete : ∀ cause, Except.error cause ∈ answers → ∀ ip, subnet.Holds ip → ip ≠ subnet.base →
    ip ≠ subnet.gateway → ip ≠ subnet.broadcast → ip ∈ handedOut answers

namespace IsBlock

variable (h : subnet.IsBlock)
include h

/-- Addresses at different offsets are different. -/
theorem address_inj {other : Nat} (hoffset : offset < subnet.size) (hother : other < subnet.size)
    (heq : subnet.address offset = subnet.address other) : offset = other := by
  have hvalue : subnet.base.value.toNat + offset = subnet.base.value.toNat + other := by
    rw [← h.toNat_address hoffset, ← h.toNat_address hother, heq]
  omega

/-- The first address of the block is at offset zero. -/
theorem base_eq_address : subnet.base = subnet.address 0 := by
  have hfour := h.four_le_size
  have hpos : 0 < subnet.size := by omega
  exact Ipv4.ext_toNat (h.toNat_address hpos).symm

/-- No address is handed out twice. -/
theorem nodup_handedOut : (handedOut (subnet.answers start n)).Nodup := by
  unfold handedOut answers
  rw [List.filterMap_map]
  refine List.Nodup.filterMap ?_ List.nodup_range'
  intro offset other ip hoffset hother
  simp only [Function.comp_apply, answer, Option.mem_def] at hoffset hother
  split at hoffset
  · split at hother
    · exact h.address_inj (by omega) (by omega)
        (Option.some.inj (hoffset.trans hother.symm))
    · cases hother
  · cases hoffset

/-- **The answers to questions in a row**, from the one after the gateway on,
allot the block. -/
theorem allots_answers (n : Nat) : subnet.Allots (subnet.answers 2 n) := by
  have hfour := h.four_le_size
  have hlength : (subnet.answers 2 n).length = n := by
    rw [answers, List.length_map, List.length_range']
  refine ⟨?sequential, ?bounded, h.nodup_handedOut, ?inside, ?reserved, ?complete⟩
  case sequential =>
    intro k hone hk hle
    refine ⟨subnet.address (2 + (k - 1)), ?_, ?_⟩
    · rw [getElem?_answers (by omega)]
      exact congrArg some (if_pos (by omega))
    · rw [h.toNat_address (by omega)]
      omega
  case bounded =>
    intro k hk hlt
    rw [getElem?_answers (by omega)]
    exact congrArg some (if_neg (by omega))
  case inside =>
    intro ip hip
    obtain ⟨offset, -, -, hlt, rfl⟩ := mem_handedOut_answers.1 hip
    exact h.holds_iff.2 ⟨offset, by omega, rfl⟩
  case reserved =>
    intro ip hip
    obtain ⟨offset, htwo, -, hlt, rfl⟩ := mem_handedOut_answers.1 hip
    have hne : ∀ other < subnet.size, offset ≠ other →
        subnet.address offset ≠ subnet.address other :=
      fun other hother hne heq => hne (h.address_inj (by omega) hother heq)
    rw [h.base_eq_address]
    exact ⟨hne 0 (by omega) (by omega), hne 1 (by omega) (by omega),
      hne (subnet.size - 1) (by omega) (by omega)⟩
  case complete =>
    intro cause hcause ip hholds hbase hgateway hbroadcast
    obtain ⟨offset, hoffset, rfl⟩ := h.holds_iff.1 hholds
    have hne : ∀ other, subnet.address offset ≠ subnet.address other → offset ≠ other :=
      fun other hne heq => hne (congrArg subnet.address heq)
    have hzero := hne 0 (h.base_eq_address ▸ hbase)
    have hone := hne 1 hgateway
    have hlast := hne (subnet.size - 1) hbroadcast
    have hfull := size_sub_one_lt_of_refused hcause
    exact mem_handedOut_answers.2 ⟨offset, by omega, by omega, by omega, rfl⟩

end IsBlock

end Subnet

/-! ## Pools -/

namespace AddressPool

/-- **Questions in a row**: the addresses and the errors among the answers. -/
theorem takeMany_eq (pool : AddressPool) (hsize : 2 ≤ pool.subnet.size) (n : Nat) :
    pool.takeMany n = (Subnet.handedOut (pool.subnet.answers pool.next n),
        Subnet.refusals (pool.subnet.answers pool.next n)) := by
  induction n generalizing pool with
  | zero => rfl
  | succ n ih =>
    have hcount : pool.subnet.hostCount = pool.subnet.size - 2 := rfl
    rw [takeMany, take, Subnet.answers_succ, Subnet.answer]
    by_cases hroom : pool.next < pool.subnet.size - 1
    · have hrest := ih { pool with next := pool.next + 1 } hsize
      rw [if_pos (by omega), if_pos hroom]
      dsimp only at hrest ⊢
      rw [hrest]
      rfl
    · rw [if_neg (by omega), if_neg hroom]
      dsimp only
      rw [ih pool hsize, Subnet.answers_of_le (by omega), Subnet.answers_of_le (by omega)]
      rfl

end AddressPool

namespace WordSubnet

variable {subnet : WordSubnet}

/-- **The number of hosts** of a block. -/
theorem hostCount_of_isBlock (h : subnet.toSubnet.IsBlock) :
    ∃ count, subnet.hostCount = .ok count ∧ count.toNat = subnet.toSubnet.size - 2 := by
  have hpos : 1 ≤ subnet.bits.toNat := h.one_le
  have hle : subnet.bits.toNat ≤ 30 := h.le_thirty
  have hbits : subnet.bits.toNat ≤ 32 := by omega
  obtain ⟨places, hplaces, hn⟩ := hostBits_of_le hbits
  have hlt : places.toNat < 32 := by omega
  obtain ⟨hshift, hall⟩ := Word.shiftedLeft_of_lt (a := 1) hlt
  have hsize : ((1 : Word) <<< places).toNat = subnet.toSubnet.size := by
    have hlt := h.size_le
    rw [hall, hn, UInt32.toNat_one, Nat.one_mul]
    exact Nat.mod_eq_of_lt (show subnet.toSubnet.size < 2 ^ 32 by omega)
  have hfour := h.four_le_size
  obtain ⟨hminus, hcount⟩ := Word.minus_of_le (a := (1 : Word) <<< places) (b := 2)
    (by rw [hsize]; exact Nat.le_trans (by decide) hfour)
  refine ⟨_, ?_, hcount.trans (by rw [hsize]; rfl)⟩
  unfold hostCount
  rw [hplaces]
  exact (congrArg (· >>= fun all => Word.minus all 2) hshift).trans hminus

/-- **The gateway** of a block. -/
theorem gateway_of_isBlock (h : subnet.toSubnet.IsBlock) :
    subnet.gateway = .ok subnet.toSubnet.gateway := by
  have hfour := h.four_le_size
  have hend : subnet.base.toNat + subnet.toSubnet.size ≤ 2 ^ 32 := h.base_add_size_le
  obtain ⟨hplus, hvalue⟩ := Word.plus_of_lt (a := subnet.base) (b := 1)
    (show subnet.base.toNat + 1 < 2 ^ 32 by omega)
  unfold gateway
  rw [hplus]
  have hone : 1 < subnet.toSubnet.size := by omega
  exact congrArg Except.ok (Ipv4.ext_toNat (hvalue.trans (h.toNat_address hone).symm))

end WordSubnet

namespace WordPool

variable {pool : WordPool}

/-- **A pool that has room** hands out the address at its offset and moves to
the next one. -/
theorem take_of_lt (h : pool.subnet.toSubnet.IsBlock)
    (hroom : pool.next.toNat < pool.subnet.toSubnet.size - 1) :
    pool.take = .ok (.ok (pool.subnet.toSubnet.address pool.next.toNat),
        { pool with next := pool.next + 1 })
      ∧ (pool.next + 1).toNat = pool.next.toNat + 1 := by
  have hend : pool.subnet.base.toNat + pool.subnet.toSubnet.size ≤ 2 ^ 32 := h.base_add_size_le
  obtain ⟨count, hcount, hhosts⟩ := WordSubnet.hostCount_of_isBlock h
  obtain ⟨haddress, hvalue⟩ := Word.plus_of_lt (a := pool.subnet.base) (b := pool.next) (by omega)
  obtain ⟨hnext, hmoved⟩ := Word.plus_of_lt (a := pool.next) (b := 1)
    (show pool.next.toNat + 1 < 2 ^ 32 by omega)
  have hip : (⟨pool.subnet.base + pool.next⟩ : Ipv4)
      = pool.subnet.toSubnet.address pool.next.toNat :=
    Ipv4.ext_toNat (hvalue.trans (h.toNat_address (by omega)).symm)
  have hsome : ¬ count < pool.next := by
    rw [UInt32.lt_iff_toNat_lt]
    omega
  refine ⟨?_, hmoved⟩
  unfold take
  rw [hcount, haddress, hnext, ← hip]
  exact if_neg hsome

/-- **A pool that has none** says so and stays as it is. -/
theorem take_of_eq (h : pool.subnet.toSubnet.IsBlock)
    (hfull : pool.next.toNat = pool.subnet.toSubnet.size - 1) :
    pool.take = .ok (.error (.exhausted pool.subnet.toSubnet), pool) := by
  have hfour := h.four_le_size
  obtain ⟨count, hcount, hhosts⟩ := WordSubnet.hostCount_of_isBlock h
  have hnone : count < pool.next := by
    rw [UInt32.lt_iff_toNat_lt]
    omega
  unfold take
  rw [hcount]
  exact if_pos hnone

/-- **Questions in a row are answered from offsets in a row**, and the offset
moves on with each of them, up to the last address of the block. -/
theorem takeMany_eq (pool : WordPool) (h : pool.subnet.toSubnet.IsBlock)
    (hle : pool.next.toNat ≤ pool.subnet.toSubnet.size - 1) (n : Nat) :
    ∃ next, pool.takeMany n
        = .ok (pool.subnet.toSubnet.answers pool.next.toNat n, { pool with next })
      ∧ next.toNat = min (pool.next.toNat + n) (pool.subnet.toSubnet.size - 1) := by
  induction n generalizing pool with
  | zero => exact ⟨pool.next, rfl, (Nat.min_eq_left hle).symm⟩
  | succ n ih =>
    rcases Nat.lt_or_eq_of_le hle with hroom | hfull
    · obtain ⟨htake, hmoved⟩ := take_of_lt h hroom
      obtain ⟨next, hrest, hnext⟩ := ih { pool with next := pool.next + 1 } h
        (by dsimp only; omega)
      refine ⟨next, ?_, by dsimp only at hnext; omega⟩
      rw [takeMany, htake, Subnet.answers_succ, Subnet.answer, if_pos hroom, ← hmoved]
      exact congrArg (· >>= fun found => pure (_ :: found.1, found.2)) hrest
    · obtain ⟨next, hrest, hnext⟩ := ih pool h hle
      refine ⟨next, ?_, by omega⟩
      rw [takeMany, take_of_eq h hfull, Subnet.answers_of_le (by omega)]
      rw [Subnet.answers_of_le (by omega)] at hrest
      exact congrArg (· >>= fun found => pure (_ :: found.1, found.2)) hrest

/-- Questions to a pool of which nothing was handed out yet. -/
theorem takeMany_ofSubnet {subnet : WordSubnet} (h : subnet.toSubnet.IsBlock) (n : Nat) :
    ∃ next, (ofSubnet subnet).takeMany n = .ok (subnet.toSubnet.answers 2 n, ⟨subnet, next⟩)
      ∧ next.toNat = min (2 + n) (subnet.toSubnet.size - 1) := by
  have hfour := h.four_le_size
  exact takeMany_eq (ofSubnet subnet) h (show 2 ≤ subnet.toSubnet.size - 1 by omega) n

end WordPool

namespace Subnet

variable {s : String} {subnet : Subnet} {n : Nat}

/-- **A text that is accepted** is accepted in words, as a block. -/
theorem exists_word_of_ofText (h : ofText s = .ok subnet) :
    ∃ word, WordSubnet.ofText s = .ok word ∧ word.toSubnet = subnet ∧ subnet.IsBlock := by
  have hblock := isBlock_of_ofText h
  rw [ofText_eq_map] at h
  cases hword : WordSubnet.ofText s with
  | ok word =>
    rw [hword] at h
    exact ⟨word, rfl, Except.ok.inj h, hblock⟩
  | error failure =>
    rw [hword] at h
    cases h

/-- **The addresses of a subnet are handed out in a row.** Any number of
questions to the pool of a subnet that was read from a text have answers: no sum
overflows, and the offset is moved up to the last address of the block and no
further. The answers allot the block, and whoever looks at the addresses and the
errors alone finds those that are among them. -/
theorem pool_allots (h : ofText s = .ok subnet) (n : Nat) :
    ∃ word answers next, WordSubnet.ofText s = .ok word ∧ word.toSubnet = subnet
      ∧ (WordPool.ofSubnet word).takeMany n = .ok (answers, ⟨word, next⟩)
      ∧ next.toNat = min (2 + n) (subnet.size - 1)
      ∧ answers.length = n ∧ subnet.Allots answers
      ∧ (AddressPool.ofSubnet subnet).takeMany n = (handedOut answers, refusals answers) := by
  obtain ⟨word, hword, rfl, hblock⟩ := exists_word_of_ofText h
  obtain ⟨next, hmany, hnext⟩ := WordPool.takeMany_ofSubnet hblock n
  have hfour := hblock.four_le_size
  refine ⟨word, _, next, hword, rfl, hmany, hnext, ?_, hblock.allots_answers n, ?_⟩
  · rw [answers, List.length_map, List.length_range']
  · exact AddressPool.takeMany_eq (.ofSubnet word.toSubnet) (show 2 ≤ word.toSubnet.size by omega) n

/-- A block of four addresses has one for a container. -/
theorem pool_allots_smallest :
    ofText "192.168.7.0/30" = .ok ⟨.ofOctets 192 168 7 0, 30⟩
    ∧ ∃ answers, (AddressPool.ofSubnet ⟨.ofOctets 192 168 7 0, 30⟩).takeMany 2
        = (handedOut answers, refusals answers)
      ∧ answers[0]? = some (.ok (.ofOctets 192 168 7 2))
      ∧ answers[1]? = some (.error (.exhausted ⟨.ofOctets 192 168 7 0, 30⟩)) := by
  have hread : ofText "192.168.7.0/30" = .ok ⟨.ofOctets 192 168 7 0, 30⟩ := by decide +kernel
  obtain ⟨_, answers, _, -, -, -, -, hlength, hallots, hmany⟩ := pool_allots hread 2
  obtain ⟨ip, hfirst, hvalue⟩ :=
    hallots.sequential 1 (Nat.le_refl 1) (by rw [hlength]; decide) (by decide)
  have hip : ip = .ofOctets 192 168 7 2 := Ipv4.ext_toNat (hvalue.trans (by decide))
  exact ⟨hread, answers, hmany, hip ▸ hfirst,
    hallots.bounded 2 (by rw [hlength]) (by decide)⟩

/-! ## Use of a subnet -/

/-- **A subnet can be used** if it has a gateway and any number of questions to
its pool have answers. -/
structure Usable (word : WordSubnet) : Prop where
  gateway : ∃ ip, word.gateway = .ok ip
  takeMany : ∀ n, ∃ found, (WordPool.ofSubnet word).takeMany n = .ok found

/-- A block can be used. -/
theorem usable_of_isBlock {word : WordSubnet} (h : word.toSubnet.IsBlock) : Usable word := by
  refine ⟨⟨_, WordSubnet.gateway_of_isBlock h⟩, fun n => ?_⟩
  obtain ⟨next, hmany, -⟩ := WordPool.takeMany_ofSubnet h n
  exact ⟨_, hmany⟩

/-- What is accepted in words is a block. -/
theorem isBlock_of_ofText_word {word : WordSubnet} (h : WordSubnet.ofText s = .ok word) :
    word.toSubnet.IsBlock := by
  refine isBlock_of_ofText (s := s) ?_
  rw [ofText_eq_map, h]
  rfl

/-- The subnet when nobody picks one, in words. -/
def usualWord : WordSubnet := ⟨(Ipv4.ofOctets 172 28 0 0).value, 16⟩

theorem usable_usualWord : Usable usualWord :=
  usable_of_isBlock ⟨by decide, by decide, by decide⟩

/-- **A subnet from an environment** can be used, whatever its text is, unless
the text is a crash. -/
theorem ofEnvironment_usable {env : Environment}
    (h : ∀ text address, env.dockerSubnet? = some text → ¬ Written text address 0) :
    ∃ word, ofEnvironment env = .ok word.toSubnet ∧ Usable word := by
  unfold ofEnvironment
  cases htext : env.dockerSubnet? with
  | none => exact ⟨usualWord, rfl, usable_usualWord⟩
  | some text =>
    rw [Option.map_some]
    obtain ⟨address, bits, -, -, -, heq⟩ | ⟨_, _, -, -, heq⟩ | ⟨address, hwritten, -⟩ | ⟨-, heq⟩ :=
      ofText_cases text
    · obtain ⟨word, -, hword, hblock⟩ := exists_word_of_ofText heq
      rw [heq, ← hword]
      exact ⟨word, rfl, usable_of_isBlock (hword ▸ hblock)⟩
    · rw [heq]
      exact ⟨usualWord, rfl, usable_usualWord⟩
    · exact absurd hwritten (h text address htext)
    · rw [heq]
      exact ⟨usualWord, rfl, usable_usualWord⟩

/-- An environment whose subnet has no bit is a crash. -/
theorem ofEnvironment_of_zero {env : Environment} {text : String} {address : Ipv4}
    (htext : env.dockerSubnet? = some text) (hwritten : Written text address 0) :
    ofEnvironment env = .error .leftShift := by
  unfold ofEnvironment
  rw [htext, Option.map_some, ofText_of_zero hwritten]
  rfl

/-- **How each text is answered.** A text is accepted if it has an address and
from one to thirty bits; it is refused as too small if it has more, as invalid
if it is no such text at all; and it is a crash if it has an address and no bit,
because a mask is made by a shift and the shift is by all bits of a word. Words
and numbers agree on all this. What is accepted can be used, and so can the
subnet that an environment asks for, unless its text is a crash. -/
theorem ofText_answers (s : String) :
    ((∃ subnet, ofText s = .ok subnet)
        ↔ ∃ address bits, Written s address bits ∧ 1 ≤ bits ∧ bits ≤ 30)
    ∧ (∀ bits, ofText s = Outcome.failed (.tooSmall bits)
        ↔ 30 < bits ∧ ∃ address, Written s address bits)
    ∧ (ofText s = Outcome.failed (.invalid s) ↔ ∀ address bits, ¬ Written s address bits)
    ∧ (∀ crash, ofText s = Outcome.crashed crash
        ↔ crash = .overflow .leftShift ∧ ∃ address, Written s address 0)
    ∧ ofText s = (WordSubnet.ofText s).map WordSubnet.toSubnet
    ∧ (∀ word, WordSubnet.ofText s = .ok word → Usable word)
    ∧ ∀ env : Environment,
      (∃ text address, env.dockerSubnet? = some text ∧ Written text address 0
        ∧ ofEnvironment env = .error .leftShift)
      ∨ (∀ text address, env.dockerSubnet? = some text → ¬ Written text address 0)
        ∧ ∃ word, ofEnvironment env = .ok word.toSubnet ∧ Usable word := by
  refine ⟨?_, fun _ => ofText_eq_tooSmall_iff, ofText_eq_invalid_iff,
    fun _ => ofText_eq_crashed_iff, ofText_eq_map s,
    fun _ hword => usable_of_isBlock (isBlock_of_ofText_word hword), ?_⟩
  · constructor
    · rintro ⟨subnet, h⟩
      obtain ⟨address, bits, hwritten, hpos, hle, -⟩ := ofText_eq_ok_iff.1 h
      exact ⟨address, bits, hwritten, hpos, hle⟩
    · rintro ⟨address, bits, hwritten, hpos, hle⟩
      exact ⟨_, ofText_of_written hwritten hpos hle⟩
  · intro env
    by_cases hzero : ∃ text address, env.dockerSubnet? = some text ∧ Written text address 0
    · obtain ⟨text, address, htext, hwritten⟩ := hzero
      exact Or.inl ⟨text, address, htext, hwritten, ofEnvironment_of_zero htext hwritten⟩
    · have hnone : ∀ text address, env.dockerSubnet? = some text → ¬ Written text address 0 :=
        fun text address htext hwritten => hzero ⟨text, address, htext, hwritten⟩
      exact Or.inr ⟨hnone, ofEnvironment_usable hnone⟩

/-- A subnet that an environment asks for by an address in it. -/
theorem ofText_answers_private :
    ∃ word, ofEnvironment (.ofTexts [("TESTNET_DOCKER_SUBNET", " 10.1.2.3/+024\n")])
      = .ok word.toSubnet ∧ Usable word := by
  obtain ⟨-, -, -, -, -, -, henv⟩ := ofText_answers " 10.1.2.3/+024\n"
  obtain ⟨_, _, -, -, hcrash⟩ | ⟨-, hword⟩ :=
    henv (.ofTexts [("TESTNET_DOCKER_SUBNET", " 10.1.2.3/+024\n")])
  · exact absurd hcrash (by decide +kernel)
  · exact hword

/-- **No bit is not too many**, and still there is no subnet of no bit. -/
theorem ofText_crashes_on_everything :
    Written "0.0.0.0/0" (.ofOctets 0 0 0 0) 0
    ∧ ofText "0.0.0.0/0" = Outcome.crashed (.overflow .leftShift)
    ∧ ofEnvironment (.ofTexts [("TESTNET_DOCKER_SUBNET", "0.0.0.0/0")]) = .error .leftShift :=
  ⟨parts?_eq_some_iff.1 (by decide +kernel), by decide +kernel, by decide +kernel⟩

end Subnet

end LedgerNet
