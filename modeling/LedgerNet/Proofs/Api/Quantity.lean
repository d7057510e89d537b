import LedgerNet.Api.Contract
import LedgerNet.Proofs.Text.Numeral

/-!
# Which texts are quantities

A quantity is a number in base sixteen after the mark of that base. The reader
leaves the digits to the rule for all unsigned numbers, and that rule lets a
plus sign stand before them. So a text is read exactly if it is a quantity or
one with a plus sign after its mark (`ofText?_grammar`); of these the second
should have been refused, `0x+1` for one.

Whatever is not read does not get lost: a call whose reply holds such a text
fails, and the failure names the text.
-/

namespace LedgerNet

open Json

namespace Quantity

variable {s : String} {n : Nat} {cs rest : List Char}

/-- **A text spells a number**: the mark of base sixteen, in either case, then a
sign, if any, and digits that denote the number, which has at most 128 bits. -/
def Spells (sign : List Char) (s : String) (n : Nat) : Prop :=
  ∃ digits, (s.toList = '0' :: 'x' :: (sign ++ digits) ∨ s.toList = '0' :: 'X' :: (sign ++ digits))
    ∧ Text.Denotes 16 digits n ∧ n < 2 ^ 128

theorem afterMark?_eq_some_iff :
    afterMark? cs = some rest ↔ cs = '0' :: 'x' :: rest ∨ cs = '0' :: 'X' :: rest := by
  constructor
  · intro h
    unfold afterMark? at h
    split at h
    · obtain rfl := Option.some.inj h
      exact Or.inl rfl
    · obtain rfl := Option.some.inj h
      exact Or.inr rfl
    · cases h
  · rintro (rfl | rfl)
    · rfl
    · rfl

/-- A text is read if it spells the number, with or without a plus sign. -/
theorem ofText?_eq_some_iff : ofText? s = some n ↔ Spells [] s n ∨ Spells ['+'] s n := by
  unfold ofText? Spells
  simp only [Option.bind_eq_some_iff, afterMark?_eq_some_iff, Text.unsigned?_eq_some_iff]
  constructor
  · rintro ⟨rest, hmark, digits, rfl | rfl, hdenotes⟩
    · exact Or.inl ⟨rest, hmark, hdenotes⟩
    · exact Or.inr ⟨digits, hmark, hdenotes⟩
  · rintro (⟨digits, hmark, hdenotes⟩ | ⟨digits, hmark, hdenotes⟩)
    · exact ⟨digits, hmark, digits, Or.inl rfl, hdenotes⟩
    · exact ⟨'+' :: digits, hmark, digits, Or.inr rfl, hdenotes⟩

end Quantity

/-! ## Replies that hold a text -/

/-- **A reply holds a text**: it tells of no error, and its result is a
string. -/
def HttpReply.Holds (reply : HttpReply) (s : String) : Prop :=
  reply.isFailure = false ∧ (replyDecoder Decoder.string).run reply.body = some (some s, none)

/-- A field that is a string where strings are read is that string where
anything else is. -/
theorem Slot.optional_of_string {α : Type} {slot : Slot} {depth : Nat} {s : String} {value : α}
    {decoder : Decoder α} (hstring : slot.optional Decoder.string depth = some (some s))
    (hvalue : decoder depth (.text s) = some value) :
    slot.optional decoder depth = some (some value) := by
  cases slot with
  | noMember => cases Option.some.inj hstring
  | noItem => cases hstring
  | found found =>
    cases found with
    | text text =>
      obtain rfl : text = s := Option.some.inj (Option.some.inj hstring)
      show (decoder depth (.text text)).map some = _
      rw [hvalue]
      rfl
    | null => cases Option.some.inj hstring
    | bool _ | number _ | brokenText | array _ | object _ => cases hstring

/-- **A call that gets a text** comes to what the text means to it. -/
theorem HttpReply.Holds.outcome_eq {α : Type} {reply : HttpReply} {s : String}
    (h : reply.Holds s) {call : WireCall α} {url : String} {result : Except ApiError α}
    (hdecoder : ∀ depth, call.decoder depth (.text s) = some result) :
    call.outcome url (some reply) = result := by
  obtain ⟨hwell, hstring⟩ := h
  have hbody : (replyDecoder call.decoder).run reply.body = some (some result, none) := by
    unfold Decoder.run replyDecoder at hstring ⊢
    obtain ⟨value, hvalue, hstring⟩ := Option.bind_eq_some_iff.1 hstring
    obtain ⟨slots, hslots, hstring⟩ := Option.bind_eq_some_iff.1 hstring
    refine Option.bind_eq_some_iff.2 ⟨value, hvalue, Option.bind_eq_some_iff.2 ⟨slots, hslots, ?_⟩⟩
    split at hstring
    · rename_i result refusal depth
      obtain ⟨text, htext, hstring⟩ := Option.bind_eq_some_iff.1 hstring
      obtain ⟨refused, hrefused, hstring⟩ := Option.bind_eq_some_iff.1 hstring
      obtain ⟨rfl, rfl⟩ := Prod.mk.inj (Option.some.inj hstring)
      refine Option.bind_eq_some_iff.2 ⟨some _, Slot.optional_of_string htext (hdecoder depth), ?_⟩
      exact Option.bind_eq_some_iff.2 ⟨none, hrefused, rfl⟩
    · cases hstring
  unfold WireCall.outcome
  dsimp only
  rw [hwell, hbody]
  rfl

namespace Quantity

/-- A text that is no quantity is reported as it is. -/
theorem quantityReply_text (method : String) (reply : Nat → Except ApiError ContractReply)
    (depth : Nat) (s : String) :
    ContractCall.quantityReply method reply depth (.text s)
      = some (match ofText? s with
        | some n => reply n
        | none => .error (.malformed method "quantity" s)) := by
  show Option.map (fun result => Except.bind result reply) (some (match ofText? s with
    | some n => .ok n
    | none => .error (.malformed method "quantity" s))) = _
  cases ofText? s with
  | some n => rfl
  | none => rfl

/-- **Exactly the quantities are read.** A text is read as a number if it is the mark of base
sixteen, digits of either case that denote the number, and nothing else, and the number has at most
128 bits; a plus sign right after the mark is let through, and nothing else is. A call for a balance
or for the number of the last block whose reply holds the text has this number, if a number of a
block fits 64 bits, and for any other text it fails and reports the text as malformed. -/
theorem ofText?_grammar (s : String) :
    (∀ n, ofText? s = some n ↔ Spells [] s n ∨ Spells ['+'] s n)
    ∧ ∀ reply : HttpReply, reply.Holds s → ∀ address url,
      (ContractCall.onWire (.balance address)).outcome url (some reply)
          = (match ofText? s with
            | some n => .ok (.balance n)
            | none => .error (.malformed "eth_getBalance" "quantity" s))
        ∧ (ContractCall.onWire .blockNumber).outcome url (some reply)
          = (match ofText? s with
            | some n =>
              if n < 2 ^ 64 then .ok (.blockNumber n)
              else .error (.malformed "eth_blockNumber" "blockNumber" (toString n))
            | none => .error (.malformed "eth_blockNumber" "quantity" s)) := by
  refine ⟨fun n => ofText?_eq_some_iff, fun reply hholds address url => ⟨?_, ?_⟩⟩
  · exact hholds.outcome_eq fun depth => quantityReply_text _ _ depth s
  · exact hholds.outcome_eq fun depth => quantityReply_text _ _ depth s

/-- Zeros before the number are no matter, and neither is the case of a digit. -/
theorem ofText?_grammar_leading_zeros :
    let reply : HttpReply := ⟨200, "\x7b\"result\":\"0x00Ff\"\x7d"⟩
    reply.Holds "0x00Ff" ∧ Spells [] "0x00Ff" 255 ∧ ofText? "0x00Ff" = some 255
      ∧ (ContractCall.onWire (.balance "0xa")).outcome "url" (some reply) = .ok (.balance 255) := by
  intro reply
  have hholds : reply.Holds "0x00Ff" := by
    have hfound : ((replyDecoder Decoder.string).run reply.body).map
        (fun found => (found.1, found.2.isNone)) = some (some "0x00Ff", true) := by decide +kernel
    obtain ⟨⟨text, refusal⟩, hrun, heq⟩ := Option.map_eq_some_iff.1 hfound
    obtain ⟨rfl, hnone⟩ := Prod.mk.inj heq
    obtain rfl : refusal = none := Option.isNone_iff_eq_none.1 hnone
    exact ⟨rfl, hrun⟩
  have hspells : Spells [] "0x00Ff" 255 := by
    refine ⟨['0', '0', 'F', 'f'], Or.inl rfl, ⟨nofun, [0, 0, 15, 15], ?_, rfl⟩, by decide⟩
    simp [Text.IsDigit]
  obtain ⟨hread, hcalls⟩ := ofText?_grammar "0x00Ff"
  have hvalue : ofText? "0x00Ff" = some 255 := (hread 255).2 (Or.inl hspells)
  have hanswer := (hcalls reply hholds "0xa" "url").1
  rw [hvalue] at hanswer
  exact ⟨hholds, hspells, hvalue, hanswer⟩

/-- A text with a plus sign after its mark is read as a number, though it is no quantity. -/
theorem ofText?_lenient :
    ofText? "0x+1" = some 1 ∧ ¬ ∀ s n, ofText? s = some n ↔ Spells [] s n := by
  have hread : ofText? "0x+1" = some 1 := by decide
  refine ⟨hread, fun hexact => ?_⟩
  obtain ⟨digits, hmark | hmark, hdenotes, -⟩ := (hexact "0x+1" 1).1 hread
  · obtain rfl : ['+', '1'] = digits := (List.cons.inj (List.cons.inj hmark).2).2
    obtain ⟨-, values, hvalues, -⟩ := hdenotes
    obtain ⟨_, _, hplus, -⟩ := List.forall₂_cons_left_iff.1 hvalues
    exact hplus.ne_plus rfl
  · exact absurd (List.cons.inj (List.cons.inj hmark).2).1 (by decide)

end Quantity

end LedgerNet
