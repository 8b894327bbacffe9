import UnlockProof.Proofs.Account
import UnlockProof.Proofs.Rlp.Canonical

/-!
# The stored form of an account

An account is stored as a list of four strings: its nonce and its balance without leading zeros, the
root of its storage and the hash of its code in full. Only this form is read, and only as a whole:
another number of items, a list in the place of a string, another width or length, or bytes behind
the end are refused.

## Implementation notes

The form is stated for the items of a canonical list and not for what the writer does. So it says of
any list at all whether it is an account, and of which one.
-/

namespace UnlockProof.Account
open Rlp

variable {bs s after : Bytes} {a b : Account} {items : List Item} {width n : Nat}

/-- Says that bytes spell a number: in at most `width` of them, the first of which is not zero. -/
structure SpellsNumber (width n : Nat) (s : Bytes) : Prop where
  short : s.length ≤ width
  minimal : s.head? ≠ some 0
  value : ofBigEndian s = n

/-- A number is spelled in one way. -/
theorem spellsNumber_iff (hn : n < Nat.pow 256 width) :
    SpellsNumber width n s ↔ s = minimalBigEndian width n := by
  constructor
  · intro h
    rw [← h.value]
    exact (minimalBigEndian_ofBigEndian h.short h.minimal).symm
  · rintro rfl
    exact ⟨length_minimalBigEndian_le width n, head?_minimalBigEndian_ne width n,
      ofBigEndian_minimalBigEndian hn⟩

/-- Says that items are those of an account: four strings that spell its nonce and its balance and
that are its storage root and its code hash. -/
def IsMadeOf (a : Account) (items : List Item) : Prop :=
  ∃ nonce balance, SpellsNumber 8 a.nonce.toNat nonce ∧ SpellsNumber 32 a.balance.toNat balance ∧
    items = [.string nonce, .string balance, .string a.storageRoot.toList,
      .string a.codeHash.toList]

theorem isMadeOf_iff : a.IsMadeOf items ↔ items = a.payloads.map Item.string := by
  have hnonce := toNat_lt_pow_eight a.nonce
  have hbalance := toNat_lt_pow_thirtyTwo a.balance
  constructor
  · rintro ⟨nonce, balance, hspells, hspells', hitems⟩
    rw [spellsNumber_iff hnonce] at hspells
    rw [spellsNumber_iff hbalance] at hspells'
    rw [hitems, hspells, hspells', payloads, List.map_cons, List.map_cons, List.map_cons,
      List.map_cons, List.map_nil]
  · intro hitems
    refine ⟨minimalBigEndian 8 a.nonce.toNat, minimalBigEndian 32 a.balance.toNat,
      (spellsNumber_iff hnonce).mpr rfl, (spellsNumber_iff hbalance).mpr rfl, ?_⟩
    rw [hitems, payloads, List.map_cons, List.map_cons, List.map_cons, List.map_cons,
      List.map_nil]

theorem length_payload_lt_size (a : Account) :
    (encodeItems (a.payloads.map Item.string)).length < UInt64.size :=
  Nat.lt_of_le_of_lt (length_encodeItems_payloads_le a) (by decide)

theorem listsItems_encode (a : Account) : ListsItems a.encode (a.payloads.map Item.string) := by
  rw [encode_eq_wrapList]
  exact listsItems_wrapList (length_payload_lt_size a)

/-- A list is read as an account exactly if its items are those of the account. -/
theorem decode_eq_ok_iff_isMadeOf (h : ListsItems bs items) :
    decode bs = .ok a ↔ a.IsMadeOf items := by
  rw [decode_eq_ok_iff, isMadeOf_iff]
  constructor
  · intro hbs
    have hshort : bs.length < UInt64.size := by
      rw [hbs]
      exact Nat.lt_of_le_of_lt (length_encode_le a) (by decide)
    have hstored : ListsItems bs (a.payloads.map Item.string) := by
      rw [hbs]
      exact listsItems_encode a
    exact h.unique hshort hstored
  · intro hitems
    rw [h.eq_wrapList, hitems, encode_eq_wrapList]

/-- An account is not read with anything behind it. -/
theorem eq_nil_of_decode_append (ha : decode bs = .ok a) (hb : decode (bs ++ after) = .ok b) :
    after = [] := by
  rw [decode_eq_ok_iff] at ha hb
  rw [ha, encode_eq_wrapList, encode_eq_wrapList] at hb
  have hfront : (Item.list (encodeItems (a.payloads.map Item.string))).Fits :=
    length_payload_lt_size a
  have hwhole : (Item.list (encodeItems (b.payloads.map Item.string))).Fits :=
    length_payload_lt_size b
  exact eq_nil_of_encode_append hfront hwhole hb

/-- An account has one stored form. A byte string is read as the account exactly if it is what the
account is written as. Whatever is read is a canonical list; a canonical list is read exactly if its
items are those of the account; and nothing is read together with bytes behind its end. -/
theorem decode_accepts_one_form (bs : Bytes) (a : Account) :
    (decode bs = .ok a ↔ bs = a.encode) ∧
      (decode bs = .ok a → ∃ items, ListsItems bs items) ∧
      (∀ items, ListsItems bs items → (decode bs = .ok a ↔ a.IsMadeOf items)) ∧
      (decode bs = .ok a → ∀ after b, decode (bs ++ after) = .ok b → after = []) := by
  refine ⟨decode_eq_ok_iff, ?_, ?_, ?_⟩
  · intro h
    rw [decode_eq_ok_iff.mp h]
    exact ⟨_, listsItems_encode a⟩
  · intro items hitems
    exact decode_eq_ok_iff_isMadeOf hitems
  · intro h after b hb
    exact eq_nil_of_decode_append h hb

end UnlockProof.Account
