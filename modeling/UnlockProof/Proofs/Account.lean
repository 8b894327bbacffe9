import UnlockProof.Account
import UnlockProof.Proofs.Outcome
import UnlockProof.Proofs.Rlp.List

/-!
# Stored accounts

An account is read exactly from the one encoding that writing it gives. So to compare stored
accounts and to compare their bytes is the same.
-/

namespace UnlockProof.Account
open Rlp Outcome

variable {bs rest : Bytes}

theorem readString_eq_ok_iff {s : Bytes} :
    readString bs = .ok (s, rest) ↔ s.length < UInt64.size ∧ bs = encodeBytes s ++ rest := by
  simp only [readString, bind_eq_ok_iff, check_eq_ok_iff, pure_eq_ok_iff]
  constructor
  · rintro ⟨⟨e, rest'⟩, hread, hstring, heq⟩
    obtain ⟨i, hfits, rfl, rfl⟩ := exists_item_of_read hread
    obtain ⟨rfl, rfl⟩ := Prod.mk.inj heq
    cases i with
    | string bytes => exact ⟨hfits, rfl⟩
    | list payload => exact absurd rfl hstring
  · rintro ⟨hfits, rfl⟩
    exact ⟨_, read_encode_append (i := .string s) hfits rest, Bool.false_ne_true, rfl⟩

/-- The only string without leading zeros that spells a number is its encoding. -/
theorem exists_digits_iff {width n : Nat} (hn : n < Nat.pow 256 width) :
    (∃ s : Bytes, s.length ≤ width ∧ s.head? ≠ some 0 ∧ ofBigEndian s = n ∧
      bs = encodeBytes s ++ rest) ↔ bs = encodeNat width n ++ rest := by
  constructor
  · rintro ⟨s, hlen, hhead, rfl, rfl⟩
    rw [encodeNat, minimalBigEndian_ofBigEndian hlen hhead]
  · rintro rfl
    exact ⟨minimalBigEndian width n, length_minimalBigEndian_le width n,
      head?_minimalBigEndian_ne width n, ofBigEndian_minimalBigEndian hn, rfl⟩

theorem readUInt64_eq_ok_iff {n : UInt64} :
    readUInt64 bs = .ok (n, rest) ↔ bs = encodeNat 8 n.toNat ++ rest := by
  rw [← exists_digits_iff (toNat_lt_pow_eight n)]
  simp only [readUInt64, bind_eq_ok_iff, check_eq_ok_iff, pure_eq_ok_iff, Prod.exists,
    readString_eq_ok_iff]
  constructor
  · rintro ⟨s, after, ⟨-, rfl⟩, hlen, hhead, heq⟩
    obtain ⟨rfl, rfl⟩ := Prod.mk.inj heq
    have hlen : s.length ≤ 8 := Nat.le_of_not_lt hlen
    have hvalue : (UInt64.ofNat (ofBigEndian s)).toNat = ofBigEndian s :=
      UInt64.toNat_ofNat_of_lt' (ofBigEndian_lt_of_length_le hlen)
    exact ⟨s, hlen, hhead, hvalue.symm, rfl⟩
  · rintro ⟨s, hlen, hhead, hvalue, rfl⟩
    have hfits : s.length < UInt64.size := Nat.lt_of_le_of_lt hlen (by decide)
    refine ⟨s, rest, ⟨hfits, rfl⟩, Nat.not_lt_of_le hlen, hhead, ?_⟩
    rw [hvalue, UInt64.ofNat_toNat]

theorem readU256_eq_ok_iff {n : U256} :
    readU256 bs = .ok (n, rest) ↔ bs = encodeNat 32 n.toNat ++ rest := by
  rw [← exists_digits_iff (toNat_lt_pow_thirtyTwo n)]
  simp only [readU256, bind_eq_ok_iff, check_eq_ok_iff, pure_eq_ok_iff, Prod.exists,
    readString_eq_ok_iff]
  constructor
  · rintro ⟨s, after, ⟨-, rfl⟩, hhead, hlen, heq⟩
    obtain ⟨rfl, rfl⟩ := Prod.mk.inj heq
    have hlen : s.length ≤ 32 := Nat.le_of_not_lt hlen
    exact ⟨s, hlen, hhead, (toNat_ofNat_ofBigEndian hlen).symm, rfl⟩
  · rintro ⟨s, hlen, hhead, hvalue, rfl⟩
    have hfits : s.length < UInt64.size := Nat.lt_of_le_of_lt hlen (by decide)
    refine ⟨s, rest, ⟨hfits, rfl⟩, hhead, Nat.not_lt_of_le hlen, ?_⟩
    rw [hvalue, BitVec.ofNat_toNat, BitVec.setWidth_eq]

theorem readHash_eq_ok_iff {h : Hash} :
    readHash bs = .ok (h, rest) ↔ bs = encodeBytes h.toList ++ rest := by
  simp only [readHash, bind_eq_ok_iff, Prod.exists, readString_eq_ok_iff]
  constructor
  · rintro ⟨s, after, ⟨-, rfl⟩, hmatch⟩
    split at hmatch
    · next h' hs =>
        obtain ⟨rfl, rfl⟩ := Prod.mk.inj (pure_eq_ok_iff.mp hmatch)
        rw [FixedBytes.ofList?_eq_some_iff.mp hs]
    · cases hmatch
  · rintro rfl
    have hfits : h.toList.length < UInt64.size := by
      rw [h.length_toList]
      decide
    refine ⟨h.toList, rest, ⟨hfits, rfl⟩, ?_⟩
    rw [FixedBytes.ofList?_toList]
    rfl

/-- The strings of an account in the order in which they are stored. -/
def payloads (a : Account) : List Bytes :=
  [minimalBigEndian 8 a.nonce.toNat, minimalBigEndian 32 a.balance.toNat, a.storageRoot.toList,
    a.codeHash.toList]

theorem encode_eq_wrapList (a : Account) :
    a.encode = wrapList (encodeItems (a.payloads.map Item.string)) := by
  simp [encode, payloads, encodeItems, encodeNat, Item.encode]

theorem length_encodeItems_payloads_le (a : Account) :
    (encodeItems (a.payloads.map Item.string)).length ≤ 140 := by
  have hitems := length_encodeItems_string_le a.payloads
  have hnonce := length_minimalBigEndian_le 8 a.nonce.toNat
  have hbalance := length_minimalBigEndian_le 32 a.balance.toNat
  simp only [payloads, List.map_cons, List.map_nil, List.sum_cons, List.sum_nil, List.length_cons,
    List.length_nil, FixedBytes.length_toList] at hitems ⊢
  omega

theorem length_encode_le (a : Account) : a.encode.length ≤ 149 := by
  have hitems := length_encodeItems_payloads_le a
  have hlist : a.encode.length ≤ (encodeItems (a.payloads.map Item.string)).length + 9 := by
    rw [encode_eq_wrapList]
    exact Rlp.length_encode_le (.list (encodeItems (a.payloads.map Item.string)))
  omega

theorem encode_ne_nil (a : Account) : a.encode ≠ [] := by
  rw [encode_eq_wrapList]
  exact Rlp.encode_ne_nil (.list (encodeItems (a.payloads.map Item.string)))

/-- An account is read exactly from its encoding. -/
theorem decode_eq_ok_iff {a : Account} : decode bs = .ok a ↔ bs = a.encode := by
  simp only [decode, bind_eq_ok_iff, check_eq_ok_iff, pure_eq_ok_iff, Prod.exists,
    readUInt64_eq_ok_iff, readU256_eq_ok_iff, readHash_eq_ok_iff]
  constructor
  · rintro ⟨e, hwhole, nonce, r₁, hnonce, balance, r₂, hbalance, root, r₃, hroot, code, r₄, hcode,
      hrest, heq⟩
    rw [hbalance, hroot, hcode, Classical.not_not.mp hrest, List.append_nil] at hnonce
    obtain ⟨i, -, hlist, rfl, rfl⟩ := exists_item_of_readWhole hwhole
    match i, hlist with
    | .list payload, _ =>
        simp only [Item.element, Item.payload] at hnonce
        rw [Item.encode, hnonce, ← heq, encode]
        simp only [List.append_assoc]
  · intro h
    rw [h, encode_eq_wrapList]
    have hfits := Nat.lt_of_le_of_lt (length_encodeItems_payloads_le a)
      (by decide : 140 < UInt64.size)
    have hpayload : encodeItems (a.payloads.map Item.string) =
        encodeNat 8 a.nonce.toNat ++ (encodeNat 32 a.balance.toNat
          ++ (encodeBytes a.storageRoot.toList ++ (encodeBytes a.codeHash.toList ++ []))) := by
      simp only [encodeItems, payloads, List.map_cons, List.map_nil, List.flatMap_cons,
        List.flatMap_nil, Item.encode, encodeNat]
    exact ⟨_, readWhole_wrapList hfits, a.nonce, _, hpayload, a.balance, _, rfl, a.storageRoot, _,
      rfl, a.codeHash, _, rfl, Classical.not_not.mpr rfl, rfl⟩

/-- Accounts that are stored alike are equal. -/
theorem encode_injective : Function.Injective encode := by
  intro a b h
  have ha : decode a.encode = .ok a := decode_eq_ok_iff.mpr rfl
  have hb : decode a.encode = .ok b := decode_eq_ok_iff.mpr h
  exact Except.ok.inj (ha.symm.trans hb)

end UnlockProof.Account
