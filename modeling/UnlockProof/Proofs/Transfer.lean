import UnlockProof.Proofs.Answer.Mismatch
import UnlockProof.Proofs.Slot
import UnlockProof.Transfer

/-!
# Transfers given as text

An address is read from its 40 digits, in either case and with or without the mark `0x`. Behind the
mark and without white space around it, the text of a caller and the field of an answer are read as
the same address. The slot of a transfer given as text is the slot of the transfer between the
addresses that are read, and the first text that is no address is the one that is blamed.

## Implementation notes

Digits never look like a mark, so it does not matter that the mark is looked for first.
-/

namespace UnlockProof
open Numeral Outcome

namespace Address

variable {s : String} {a : Address} {cs : List Char} {ds : List Nat} {f : Failure}

theorem unmarked_of_not_isPrefix (h : ¬ ['0', 'x'] <+: cs) : unmarked cs = cs := by
  rw [unmarked.eq_def]
  split
  case h_1 rest => exact absurd (List.prefix_append ['0', 'x'] rest) h
  case h_2 => rfl

/-- A row of digits has no mark. -/
theorem unmarked_of_spells (h : Spells 16 ds cs) : unmarked cs = cs := by
  apply unmarked_of_not_isPrefix
  rintro ⟨rest, rfl⟩
  obtain ⟨d, hd⟩ := h.exists_isDigit 'x' (by simp)
  have hx : ∀ d < 16, 'x' ≠ Hex.digit d ∧ 'x' ≠ (Hex.digit d).toUpper := by decide
  rcases hd.2 with hlower | hupper
  · exact (hx d hd.1).1 hlower
  · exact (hx d hd.1).2 hupper

/-- What is left of a text without at most one mark. -/
def IsUnmarked (s : String) (cs : List Char) : Prop := s.toList = cs ∨ s.toList = '0' :: 'x' :: cs

theorem isUnmarked_unmarked (s : String) : IsUnmarked s (unmarked s.toList) := by
  rw [IsUnmarked, unmarked.eq_def]
  split
  case h_1 rest hrest => exact .inr hrest
  case h_2 => exact .inl rfl

/-- If digits are left of a text, then they are what is read. -/
theorem unmarked_eq_of_isUnmarked (h : IsUnmarked s cs) (hspells : Spells 16 ds cs) :
    unmarked s.toList = cs := by
  rcases h with h | h
  · rw [h, unmarked_of_spells hspells]
  · rw [h]
    rfl

theorem parse_eq_ok_iff :
    parse s = .ok a ↔ Spells 16 (Hex.digitsOf a.toList) (unmarked s.toList) := by
  rw [← Hex.decodeChars_eq_ok_iff, parse]
  cases Hex.decodeChars (unmarked s.toList) with
  | error fault => simp
  | ok bs =>
      simp only [Except.ok.injEq]
      rw [← FixedBytes.ofList?_eq_some_iff]
      cases (FixedBytes.ofList? bs : Option Address) with
      | none => simp
      | some a' => simp

theorem parseOrFail_eq_ok_iff : parseOrFail s = .ok a ↔ parse s = .ok a := mapError_eq_ok_iff

/-- An address is read exactly from its digits, with at most one mark. -/
theorem parseOrFail_eq_ok_iff_spells :
    parseOrFail s = .ok a ↔
      ∃ cs, IsUnmarked s cs ∧ Spells 16 (Hex.digitsOf a.toList) cs := by
  rw [parseOrFail_eq_ok_iff, parse_eq_ok_iff]
  constructor
  · intro h
    exact ⟨_, isUnmarked_unmarked s, h⟩
  · rintro ⟨cs, hcs, hspells⟩
    rwa [unmarked_eq_of_isUnmarked hcs hspells]

theorem exists_parseOrFail_iff :
    (∃ a, parseOrFail s = .ok a) ↔
      ∃ cs ds, IsUnmarked s cs ∧ ds.length = 40 ∧ Spells 16 ds cs := by
  simp only [parseOrFail_eq_ok_iff_spells]
  constructor
  · rintro ⟨a, cs, hcs, hspells⟩
    refine ⟨cs, _, hcs, ?_, hspells⟩
    rw [Hex.length_digitsOf, a.length_toList]
  · rintro ⟨cs, ds, hcs, hlen, hspells⟩
    obtain ⟨bs, hbs, rfl⟩ := Hex.exists_digitsOf (n := 20) hspells.lt hlen
    exact ⟨⟨bs, hbs⟩, cs, hcs, hspells⟩

theorem exists_fault_of_parseOrFail (h : parseOrFail s = .error f) :
    ∃ fault, f = .invalidInput (.address s fault) := by
  obtain ⟨fault, -, rfl⟩ := mapError_eq_error_iff.mp h
  exact ⟨fault, rfl⟩

/-- To put the mark before a text that has none changes nothing. -/
theorem parse_mark_append (h : ¬ ['0', 'x'] <+: s.toList) : parse ("0x" ++ s) = parse s := by
  have hmarked : ("0x" ++ s).toList = '0' :: 'x' :: s.toList := by
    rw [String.toList_append]
    rfl
  rw [parse, parse, hmarked, unmarked_of_not_isPrefix h]
  rfl

/-- Behind a mark and without white space around it a text is the same address to a caller as in an
answer. -/
theorem parseOrFail_iff_field {field : String} (hmark : ['0', 'x'] <+: s.toList)
    (htrim : Text.trim s = s) : parseOrFail s = .ok a ↔ Field.address field s = .ok a := by
  obtain ⟨rest, hrest⟩ := hmark
  have htext : s.toList = '0' :: 'x' :: rest := hrest.symm
  have htrimmed : Text.trimmed s.toList = '0' :: 'x' :: rest := by
    rw [← Text.toList_trim, htrim, htext]
  have hfield : Field.address field s = .ok a ↔ IsMarked (Hex.digitsOf a.toList) s :=
    Field.fixed_eq_ok_iff
  rw [parseOrFail_eq_ok_iff, parse_eq_ok_iff, hfield, isMarked_iff, htrimmed, htext]
  simp [unmarked, Quantity.unmarked?]

end Address

namespace LogicalKey

variable {token recipient : String} {t r : Address} {nonce amount mappingSlot : U256} {f : Failure}

theorem slotOfText_of_parseOrFail (ht : Address.parseOrFail token = .ok t)
    (hr : Address.parseOrFail recipient = .ok r) :
    slotOfText token recipient nonce amount mappingSlot =
      .ok (slot ⟨t, r, nonce, amount⟩ mappingSlot) := by
  rw [slotOfText, ofText, ht, hr]
  rfl

theorem slotOfText_of_token_error (h : Address.parseOrFail token = .error f) :
    slotOfText token recipient nonce amount mappingSlot = .error f := by
  rw [slotOfText, ofText, h]
  rfl

theorem slotOfText_of_recipient_error (ht : Address.parseOrFail token = .ok t)
    (h : Address.parseOrFail recipient = .error f) :
    slotOfText token recipient nonce amount mappingSlot = .error f := by
  rw [slotOfText, ofText, ht, h]
  rfl

/-- An address is read from its digits with at most one mark, so from every text that is 40 digits
behind at most one mark and from no other. Behind the mark and without white space around it a
caller's text is read as the field of an answer is, and without the mark it is read as with it. The
slot of two texts is the one of the addresses that are read, or the failure of the first text that
is no address, which it names. -/
theorem texts_read_alike :
    (∀ s field a, ['0', 'x'] <+: s.toList → Text.trim s = s →
      (Address.parseOrFail s = .ok a ↔ Field.address field s = .ok a)) ∧
    (∀ s a, ¬ ['0', 'x'] <+: s.toList →
      (Address.parseOrFail s = .ok a ↔ Address.parseOrFail ("0x" ++ s) = .ok a)) ∧
    (∀ s a, Address.parseOrFail s = .ok a ↔
      ∃ cs, Address.IsUnmarked s cs ∧ Spells 16 (Hex.digitsOf a.toList) cs) ∧
    (∀ s, (∃ a, Address.parseOrFail s = .ok a) ↔
      ∃ cs ds, Address.IsUnmarked s cs ∧ ds.length = 40 ∧ Spells 16 ds cs) ∧
    (∀ s f, Address.parseOrFail s = .error f → ∃ fault, f = .invalidInput (.address s fault)) ∧
    (∀ token recipient nonce amount mappingSlot,
      (∀ t r, Address.parseOrFail token = .ok t → Address.parseOrFail recipient = .ok r →
        slotOfText token recipient nonce amount mappingSlot =
          .ok (slot ⟨t, r, nonce, amount⟩ mappingSlot)) ∧
      (∀ f, Address.parseOrFail token = .error f →
        slotOfText token recipient nonce amount mappingSlot = .error f) ∧
      (∀ t f, Address.parseOrFail token = .ok t → Address.parseOrFail recipient = .error f →
        slotOfText token recipient nonce amount mappingSlot = .error f)) := by
  refine ⟨?_, ?_, ?_, ?_, ?_, ?_⟩
  · exact fun s field a hmark htrim => Address.parseOrFail_iff_field hmark htrim
  · intro s a h
    rw [Address.parseOrFail_eq_ok_iff, Address.parseOrFail_eq_ok_iff, Address.parse_mark_append h]
  · exact fun s a => Address.parseOrFail_eq_ok_iff_spells
  · exact fun s => Address.exists_parseOrFail_iff
  · exact fun s f h => Address.exists_fault_of_parseOrFail h
  · intro token recipient nonce amount mappingSlot
    exact ⟨fun t r => slotOfText_of_parseOrFail, fun f => slotOfText_of_token_error,
      fun t f => slotOfText_of_recipient_error⟩

/-- The token of `reference` as text. -/
def tokenText : String := "0xaaaaAAAAaaaaAAAAaaaaAAAAaaaaAAAAaaaaAAAA"

/-- The recipient of `reference` as text without a mark. -/
def recipientText : String := "bbbbbbbbbbbbbbbbbbbbbbbbbbbbbbbbbbbbbbbb"

/-- The texts of one transfer give its slot, and the first of them that is no address is blamed. -/
theorem texts_read_alike_reference :
    Field.address "address" tokenText = .ok reference.token ∧
      Address.parseOrFail ("0x" ++ recipientText) = .ok reference.recipient ∧
      slotOfText tokenText recipientText 1 100 302 = .ok (reference.slot 302) ∧
      slotOfText "0xzz" "0xbbbb" 1 100 302 =
        .error (.invalidInput (.address "0xzz" (.hex (.badCharacter 0x7a 0)))) ∧
      slotOfText tokenText "0xbbbb" 1 100 302 =
        .error (.invalidInput (.address "0xbbbb" (.width 2))) ∧
      ∃ fault, Failure.invalidInput (.address "0xbbbb" (.width 2)) =
        .invalidInput (.address "0xbbbb" fault) := by
  have htoken : Address.parseOrFail tokenText = .ok reference.token := rfl
  have hrecipient : Address.parseOrFail recipientText = .ok reference.recipient := rfl
  have hshort : Address.parseOrFail "0xbbbb" =
      .error (.invalidInput (.address "0xbbbb" (.width 2))) := rfl
  obtain ⟨hfield, hmark, -, -, hblames, hslots⟩ := texts_read_alike
  obtain ⟨hslot, -, -⟩ := hslots tokenText recipientText 1 100 302
  refine ⟨?_, ?_, ?_, ?_, ?_, ?_⟩
  · exact (hfield tokenText _ _ (by decide) (by decide)).mp htoken
  · exact (hmark recipientText _ (by decide)).mp hrecipient
  · exact hslot _ _ htoken hrecipient
  · exact (hslots "0xzz" "0xbbbb" 1 100 302).2.1 _ rfl
  · exact (hslots tokenText "0xbbbb" 1 100 302).2.2 _ _ htoken hshort
  · exact hblames _ _ hshort

end LogicalKey
end UnlockProof
